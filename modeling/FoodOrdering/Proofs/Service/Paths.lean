import FoodOrdering.Proofs.Network.Settled
import FoodOrdering.Proofs.Text.Blank
import FoodOrdering.Proofs.Text.Utf8
import FoodOrdering.Service.Call
import FoodOrdering.Service.Resource

/-!
# Ids in paths

Every id can be written into a path, and is read from there again.
-/

namespace FoodOrdering

namespace Http.Percent

/-- Bytes without a percent sign stand for themselves. -/
theorem decode_of_plain {bytes : List UInt8} (h : ∀ byte ∈ bytes, byte ≠ 0x25) :
    decode bytes = bytes := by
  fun_induction decode bytes with
  | case1 => rfl
  | case2 high low rest => exact absurd rfl (h 0x25 List.mem_cons_self)
  | case3 high low rest => exact absurd rfl (h 0x25 List.mem_cons_self)
  | case4 byte rest _ ih => rw [ih fun other hother => h other (List.mem_cons_of_mem _ hother)]

end Http.Percent

namespace Service

variable (id itemId : Int64)

theorem decodeText?_ofInt64 :
    Http.Percent.decodeText? (Text.ofInt64 id) = some (Text.ofInt64 id) := by
  have hrange : ∀ c ∈ Text.writeInt id.toInt, 0x2d ≤ c.toNat ∧ c.toNat ≤ 0x39 :=
    fun c hc => Text.range_of_mem_writeInt hc
  have hplain : ∀ byte ∈ Text.utf8 (Text.ofInt64 id), byte ≠ 0x25 := by
    intro byte hbyte
    rw [Text.ofInt64, Text.utf8_ofList, Text.flatMap_utf8EncodeChar_of_ascii
      fun c hc => by have := hrange c hc; omega] at hbyte
    obtain ⟨c, hc, rfl⟩ := List.mem_map.1 hbyte
    have := hrange c hc
    intro heq
    have hnat := congrArg UInt8.toNat heq
    rw [UInt8.toNat_ofNat_of_lt' (by show c.toNat < 256; omega)] at hnat
    have hmark : (0x25 : UInt8).toNat = 0x25 := rfl
    omega
  rw [Http.Percent.decodeText?, Http.Percent.decode_of_plain hplain, Text.ofUtf8?_utf8]

theorem pathId_ofInt64 : pathId (Text.ofInt64 id) = .ok id := by
  rw [pathId, pathText, decodeText?_ofInt64]
  show pathNumber _ (Text.ofInt64 id) = _
  rw [pathNumber, Text.readInt64?_ofInt64]

theorem pathIds_ofInt64 : pathIds (Text.ofInt64 id) (Text.ofInt64 itemId) = .ok (id, itemId) := by
  rw [pathIds, pathText, decodeText?_ofInt64, pathText, decodeText?_ofInt64]
  show (do
    return (← pathNumber _ (Text.ofInt64 id), ← pathNumber _ (Text.ofInt64 itemId)) :
      Except PathFault (Int64 × Int64)) = _
  rw [pathNumber, Text.readInt64?_ofInt64, pathNumber, Text.readInt64?_ofInt64]
  rfl

/-- The digits of an id are one segment. -/
theorem segments_ofInt64 :
    Text.segments '/' (Text.ofInt64 id).toList = [(Text.ofInt64 id).toList] := by
  apply Text.segments_of_notMem
  rw [Text.ofInt64, String.toList_ofList]
  have hdigits : ∀ size, '/' ∉ Text.writeNat size := by
    intro size hmem
    exact absurd (Text.isDigit_of_mem_writeNat hmem) (by decide)
  cases id.toInt with
  | ofNat size => exact hdigits size
  | negSucc size =>
      rw [Text.writeInt, List.mem_cons, not_or]
      exact ⟨by decide, hdigits (size + 1)⟩

theorem ofInt64_ne_empty : Text.ofInt64 id ≠ "" := by
  intro hempty
  have hread := Text.readInt64?_ofInt64 id
  rw [hempty] at hread
  exact absurd hread (by simp [Text.readInt64?, Text.readInt?, Text.readNat?])

/-! ## Resources of a restaurant -/

theorem ofPath?_of_slash {path : String} {rest : List Char} (h : path.toList = '/' :: rest) :
    Resource.ofPath? path = Resource.ofSegments? ((Text.segments '/' rest).map String.ofList) := by
  rw [Resource.ofPath?, h]
  rfl

theorem ofPath?_restaurantOrders :
    Resource.ofPath? ("/api/orders/restaurant/" ++ Text.ofInt64 id) =
      some (.restaurantOrders (Text.ofInt64 id)) := by
  have htext : ("/api/orders/restaurant/" ++ Text.ofInt64 id).toList =
      '/' :: ("api".toList ++ '/' :: ("orders".toList ++ '/' ::
        ("restaurant".toList ++ '/' :: (Text.ofInt64 id).toList))) := by
    rw [String.toList_append]
    rfl
  rw [ofPath?_of_slash htext, Text.segments_append_cons, Text.segments_append_cons,
    Text.segments_append_cons, segments_ofInt64]
  show Resource.ofSegments? ["api", "orders", "restaurant",
    String.ofList (Text.ofInt64 id).toList] = _
  rw [String.ofList_toList, Resource.ofSegments?, Resource.endingIn, if_neg (ofInt64_ne_empty id)]

theorem ofPath?_menu :
    Resource.ofPath? ("/api/restaurants/" ++ Text.ofInt64 id ++ "/menu") =
      some (.menu (Text.ofInt64 id)) := by
  have htext : ("/api/restaurants/" ++ Text.ofInt64 id ++ "/menu").toList =
      '/' :: ("api".toList ++ '/' :: ("restaurants".toList ++ '/' ::
        ((Text.ofInt64 id).toList ++ '/' :: "menu".toList))) := by
    rw [String.toList_append, String.toList_append, List.append_assoc]
    rfl
  rw [ofPath?_of_slash htext, Text.segments_append_cons, Text.segments_append_cons,
    Text.segments_append_cons, segments_ofInt64]
  show Resource.ofSegments? ["api", "restaurants", String.ofList (Text.ofInt64 id).toList,
    "menu"] = _
  rw [String.ofList_toList, Resource.ofSegments?]

theorem ofPath?_menuItem :
    Resource.ofPath? ("/api/restaurants/" ++ Text.ofInt64 id ++ "/menu/" ++ Text.ofInt64 itemId) =
      some (.menuItem (Text.ofInt64 id) (Text.ofInt64 itemId)) := by
  have htext : ("/api/restaurants/" ++ Text.ofInt64 id ++ "/menu/" ++
      Text.ofInt64 itemId).toList =
      '/' :: ("api".toList ++ '/' :: ("restaurants".toList ++ '/' ::
        ((Text.ofInt64 id).toList ++ '/' :: ("menu".toList ++ '/' ::
          (Text.ofInt64 itemId).toList)))) := by
    rw [String.toList_append, String.toList_append, String.toList_append, List.append_assoc,
      List.append_assoc]
    rfl
  rw [ofPath?_of_slash htext, Text.segments_append_cons, Text.segments_append_cons,
    Text.segments_append_cons, Text.segments_append_cons, segments_ofInt64, segments_ofInt64]
  show Resource.ofSegments? ["api", "restaurants", String.ofList (Text.ofInt64 id).toList,
    "menu", String.ofList (Text.ofInt64 itemId).toList] = _
  rw [String.ofList_toList, String.ofList_toList, Resource.ofSegments?, Resource.endingIn,
    if_neg (ofInt64_ne_empty itemId)]

end Service

end FoodOrdering
