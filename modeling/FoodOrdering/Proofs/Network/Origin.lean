import FoodOrdering.Proofs.Network.Settled

/-!
# Paths behind an origin

An address that names a host and nothing behind it can be continued with a path and a query.  The
host stays the same, and the path that is asked for is that text, settled.
-/

namespace FoodOrdering

namespace Text

variable {p : Char → Bool}

theorem dropEnd_prefix (p : Char → Bool) (text : List Char) : dropEnd p text <+: text := by
  rw [← List.reverse_suffix, dropEnd, List.reverse_reverse]
  exact List.dropWhile_suffix p

theorem dropEnd_append_of_ne_nil {first second : List Char} (h : dropEnd p second ≠ []) :
    dropEnd p (first ++ second) = first ++ dropEnd p second := by
  have hnone : (second.reverse.dropWhile p).isEmpty = false := by
    simpa [dropEnd] using h
  simp [dropEnd, List.dropWhile_append, hnone]

/-- What is dropped at the end of a text stands behind the characters that are kept. -/
theorem dropEnd_append {first second : List Char} (h : ∀ c ∈ first, p c = false) :
    dropEnd p (first ++ second) = first ++ dropEnd p second := by
  have hfirst : first.reverse.dropWhile p = first.reverse := by
    cases hlist : first.reverse with
    | nil => rfl
    | cons c rest =>
        have hc : c ∈ first := List.mem_reverse.1 (hlist ▸ List.mem_cons_self)
        rw [List.dropWhile_cons, h c hc]
        rfl
  rw [dropEnd, List.reverse_append, List.dropWhile_append, hfirst]
  split
  next hnone => simp [dropEnd, List.isEmpty_iff.1 hnone]
  next => simp [dropEnd]

end Text

namespace Url

/-- A scheme, and what names a host up to the character that ends it. -/
def IsOrigin (origin : List Char) : Prop :=
  ∃ scheme authority, origin = scheme ++ authority ∧
    (scheme = "http://".toList ∨ scheme = "https://".toList) ∧ authority ≠ [] ∧
    ∀ c ∈ authority, endsAuthority c = false ∧ 0x20 < c.toNat

/-- What reading leaves of a text behind an origin, up to the end of the path. -/
def IsWithin (text : List Char) : Prop :=
  ∀ c ∈ text, 0x20 < c.toNat ∧ c ≠ '?' ∧ c ≠ '#'

/-- Nothing, or a query. -/
def IsQuery (text : List Char) : Prop :=
  text = [] ∨ text.head? = some '?'

/-! ## Cleaning -/

theorem cleaned_of_plain {text : List Char} (h : ∀ c ∈ text, 0x20 < c.toNat) (tail : List Char)
    (hne : text ≠ []) :
    cleaned (text ++ tail) =
      text ++ (Text.dropEnd (fun c => c.toNat ≤ 0x20) tail).filter
        fun c => c != '\t' && c != '\n' && c != '\r' := by
  have hedge : ∀ c ∈ text, (decide (c.toNat ≤ 0x20)) = false := by
    intro c hc
    simpa using h c hc
  have hfront : (text ++ tail).dropWhile (fun c => decide (c.toNat ≤ 0x20)) = text ++ tail := by
    cases text with
    | nil => exact absurd rfl hne
    | cons c rest =>
        rw [List.cons_append, List.dropWhile_cons, hedge c List.mem_cons_self]
        rfl
  have hkept : text.filter (fun c => c != '\t' && c != '\n' && c != '\r') = text := by
    rw [List.filter_eq_self]
    intro c hc
    have hlow := h c hc
    have hne : ∀ d : Char, d.toNat ≤ 0x20 → c ≠ d := by
      rintro d hd rfl
      omega
    simp [hne '\t' (by decide), hne '\n' (by decide), hne '\r' (by decide)]
  have hback : Text.dropEnd _ (text ++ tail) = text ++ Text.dropEnd _ tail :=
    Text.dropEnd_append hedge
  rw [cleaned, hfront]
  change (Text.dropEnd _ _).filter _ = _
  rw [hback, List.filter_append, hkept]

/-- A query is a query after cleaning. -/
theorem cleaned_append {text tail : List Char} (hne : text ≠ []) (h : ∀ c ∈ text, 0x20 < c.toNat)
    (htail : IsQuery tail) : ∃ rest, cleaned (text ++ tail) = text ++ rest ∧ IsQuery rest := by
  refine ⟨_, cleaned_of_plain h tail hne, ?_⟩
  rcases htail with rfl | hquery
  · exact Or.inl rfl
  · cases tail with
    | nil => cases hquery
    | cons mark query =>
        obtain rfl : mark = '?' := Option.some.inj hquery
        rw [show '?' :: query = ['?'] ++ query from rfl,
          Text.dropEnd_append (by simp)]
        exact Or.inr rfl

/-! ## Reading behind an origin -/

/-- The address with what names its host, and with what is asked for there. -/
def ofParts (secure : Bool) (authority target : List Char) : Option Url := do
  let (host, digits) := splitNumber (afterUser authority)
  if !isHost host then none
  else
    let number ← number? (if secure then 443 else 80) digits
    let target := target.takeWhile (· != '#')
    let path := target.takeWhile (· != '?')
    let query := target.dropWhile (· != '?')
    return { secure, number
             host := Text.lowerAscii (String.ofList host)
             segments := segmentsOf (path.drop 1)
             query := if query.isEmpty then none
               else some (encode isByNumberInQuery (query.drop 1)) }

theorem parse_eq (text : String) :
    parse text = (scheme? (cleaned text.toList)).bind fun (secure, rest) =>
      ofParts secure ((rest.dropWhile isSlash).takeWhile fun c => !endsAuthority c)
        ((rest.dropWhile isSlash).dropWhile fun c => !endsAuthority c) :=
  rfl

/-- The same host is meant, over the same kind of connection. -/
structure SameHost (url home : Url) : Prop where
  secure : url.secure = home.secure
  host : url.host = home.host
  number : url.number = home.number

theorem takeWhile_of_isWithin {path tail : List Char} (h : IsWithin path) (htail : IsQuery tail) :
    (((path ++ tail).takeWhile (· != '#')).takeWhile (· != '?')) = path := by
  have hmark : ∀ c ∈ path, (c != '#') = true := fun c hc => by simpa using (h c hc).2.2
  have hquery : ∀ c ∈ path, (c != '?') = true := fun c hc => by simpa using (h c hc).2.1
  rw [List.takeWhile_append_of_pos hmark, List.takeWhile_append_of_pos hquery]
  rcases htail with rfl | htail
  · exact List.append_nil _
  · cases tail with
    | nil => cases htail
    | cons mark query =>
        obtain rfl : mark = '?' := Option.some.inj htail
        simp

/-- What is asked for has no part in which host is meant. -/
theorem ofParts_of_ofParts {secure : Bool} {authority other : List Char} {home : Url}
    (hhome : ofParts secure authority other = some home) (target : List Char) :
    ∃ url, ofParts secure authority target = some url ∧ url.SameHost home ∧
      url.path = settle ((target.takeWhile (· != '#')).takeWhile (· != '?')) := by
  unfold ofParts at hhome ⊢
  dsimp only at hhome ⊢
  split at hhome
  next => cases hhome
  next hhost =>
    rw [if_neg hhost]
    cases hnumber : number? (if secure then 443 else 80)
        (splitNumber (afterUser authority)).2 with
    | none =>
        rw [hnumber] at hhome
        cases hhome
    | some number =>
        rw [hnumber] at hhome
        cases hhome
        exact ⟨_, rfl, ⟨rfl, rfl, rfl⟩, rfl⟩

section

variable {scheme authority text : List Char}

theorem plain_of_mem_scheme (h : scheme = "http://".toList ∨ scheme = "https://".toList) :
    ∀ c ∈ scheme, 0x20 < c.toNat := by
  rcases h with rfl | rfl
  · simp
  · simp

theorem scheme?_append (h : scheme = "http://".toList ∨ scheme = "https://".toList)
    (text : List Char) :
    scheme? (scheme ++ text) =
      some (decide (scheme = "https://".toList), '/' :: '/' :: text) := by
  have hhttp : Text.lowerAscii "http" = "http" := by decide
  have hhttps : Text.lowerAscii "https" = "https" := by decide
  rcases h with rfl | rfl
  · simp [scheme?, hhttp]
  · simp [scheme?, hhttps]

/-- The slashes of a scheme end where the host begins. -/
theorem dropWhile_slashes (hne : authority ≠ []) (h : ∀ c ∈ authority, endsAuthority c = false)
    (text : List Char) :
    ('/' :: '/' :: (authority ++ text)).dropWhile isSlash = authority ++ text := by
  cases authority with
  | nil => exact absurd rfl hne
  | cons c others =>
      have hends := h c List.mem_cons_self
      simp only [endsAuthority, Bool.or_eq_false_iff] at hends
      simp [hends.1.1, show isSlash '/' = true from rfl]

/-- What names a host ends where a path or a query begins. -/
theorem takeWhile_authority (h : ∀ c ∈ authority, endsAuthority c = false)
    (htext : ∀ mark ∈ text.head?, endsAuthority mark = true) :
    ((authority ++ text).takeWhile fun c => !endsAuthority c) = authority ∧
      ((authority ++ text).dropWhile fun c => !endsAuthority c) = text := by
  have hinside : ∀ c ∈ authority, (!endsAuthority c) = true := by
    intro c hc
    rw [h c hc]
    rfl
  rw [List.takeWhile_append_of_pos hinside, List.dropWhile_append_of_pos hinside]
  cases text with
  | nil => exact ⟨List.append_nil _, rfl⟩
  | cons mark rest =>
      have hmark : endsAuthority mark = true := htext mark rfl
      simp [hmark]

end

/-- A path or a query begins with a character that ends what names a host. -/
theorem endsAuthority_of_mem_head? {target tail : List Char}
    (hrooted : target = [] ∨ target.head? = some '/') (htail : IsQuery tail) :
    ∀ mark ∈ (target ++ tail).head?, endsAuthority mark = true := by
  intro mark hmark
  rcases hrooted with rfl | hrooted
  · rcases htail with rfl | hquery
    · cases hmark
    · cases hquery.symm.trans hmark
      rfl
  · rw [List.head?_append, hrooted] at hmark
    cases hmark
    rfl

/-- The host of an origin is read as such, and what follows is what is asked for there. -/
theorem parse_append {scheme authority target tail : List Char}
    (hscheme : scheme = "http://".toList ∨ scheme = "https://".toList) (hne : authority ≠ [])
    (hauthority : ∀ c ∈ authority, endsAuthority c = false ∧ 0x20 < c.toNat)
    (htarget : IsWithin target) (hrooted : target = [] ∨ target.head? = some '/')
    (htail : IsQuery tail) :
    ∃ rest, IsQuery rest ∧
      parse (String.ofList (scheme ++ authority ++ target ++ tail)) =
        ofParts (decide (scheme = "https://".toList)) authority (target ++ rest) := by
  have hplain : ∀ c ∈ scheme ++ authority ++ target, 0x20 < c.toNat := by
    intro c hc
    rcases List.mem_append.1 hc with hc | hc
    · rcases List.mem_append.1 hc with hc | hc
      · exact plain_of_mem_scheme hscheme c hc
      · exact (hauthority c hc).2
    · exact (htarget c hc).1
  have hinside : ∀ c ∈ authority, endsAuthority c = false := fun c hc => (hauthority c hc).1
  obtain ⟨rest, hcleaned, hrest⟩ := cleaned_append (by simp [hne]) hplain htail
  obtain ⟨hhost, hbehind⟩ :=
    takeWhile_authority hinside (endsAuthority_of_mem_head? hrooted hrest)
  refine ⟨rest, hrest, ?_⟩
  rw [parse_eq, String.toList_ofList, hcleaned, List.append_assoc, List.append_assoc,
    scheme?_append hscheme, Option.bind_some]
  dsimp only
  rw [dropWhile_slashes hne hinside, hhost, hbehind]

/-- Behind an origin the path that is asked for is the given one, settled, at the same host. -/
theorem parse_behind_origin {origin path tail : List Char} {home : Url} (horigin : IsOrigin origin)
    (hhome : parse (String.ofList origin) = some home) (hpath : IsWithin path)
    (hrooted : path.head? = some '/') (htail : IsQuery tail) :
    ∃ url, parse (String.ofList (origin ++ path ++ tail)) = some url ∧ url.SameHost home ∧
      url.path = settle path := by
  obtain ⟨scheme, authority, rfl, hscheme, hne, hauthority⟩ := horigin
  have hnone : IsWithin [] := fun c hc => absurd hc (List.not_mem_nil)
  obtain ⟨bare, -, hbare⟩ :=
    parse_append hscheme hne hauthority hnone (Or.inl rfl) (Or.inl rfl : IsQuery [])
  rw [List.append_nil, List.append_nil, hhome] at hbare
  obtain ⟨rest, hrest, hread⟩ := parse_append hscheme hne hauthority hpath (Or.inr hrooted) htail
  obtain ⟨url, hurl, hsame, hasked⟩ := ofParts_of_ofParts hbare.symm (path ++ rest)
  refine ⟨url, hread.trans hurl, hsame, ?_⟩
  rw [hasked, takeWhile_of_isWithin hpath hrest]

end Url

end FoodOrdering
