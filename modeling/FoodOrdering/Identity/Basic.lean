import FoodOrdering.Text.Case
import FoodOrdering.Text.Decimal
import FoodOrdering.Text.Segments

/-!
# Identities

Who a request comes from: a positive user id, at least one role, no role twice, and an e-mail
address that may be empty.
-/

namespace FoodOrdering

/-!
## Refused values

The facts about which a value of the domain can be refused, and what is said of each.
-/

inductive Invalid where
  | userIdNotPositive (id : Int64)
  | noRole
  | role (text : String)
  | orderStatus (text : String)
  | restaurantStatus (text : String)
  deriving DecidableEq, Repr

def Invalid.message : Invalid → String
  | .userIdNotPositive id =>
      "Validation error: user_id must be positive, got " ++ Text.ofInt64 id
  | .noRole => "Validation error: security context requires at least one role"
  | .role text => "Invalid role: " ++ text
  | .orderStatus text => "Invalid order status: " ++ text
  | .restaurantStatus text => "Invalid restaurant status: " ++ text

/-!
## Roles

Four roles decide every authorization.  They arrive in several spellings and leave in one: a
spelling counts up to surrounding blanks, the case of ASCII letters and one mark `ROLE_` in
front, and an owner may also be called `RESTAURANT_OWNER`.
-/

inductive Role where
  /-- Places orders and reads their own order history. -/
  | customer
  /-- Runs the restaurants they own. -/
  | owner
  /-- Administers the platform. -/
  | admin
  /-- Is signed in without any further right. -/
  | user
  deriving DecidableEq, Repr

namespace Role

/-- The one spelling in which a role leaves. -/
def name : Role → String
  | .customer => "CUSTOMER"
  | .owner => "OWNER"
  | .admin => "ADMIN"
  | .user => "USER"

/-- The role with exactly this name. -/
def ofName? (text : String) : Option Role :=
  if text = "CUSTOMER" then some .customer
  else if text = "OWNER" then some .owner
  else if text = "ADMIN" then some .admin
  else if text = "USER" then some .user
  else none

/-- The mark that some systems put in front of every role. -/
def legacyMark : List Char := ['R', 'O', 'L', 'E', '_']

/-- Drop one legacy mark in front. -/
def withoutMark (text : List Char) : List Char :=
  if legacyMark.isPrefixOf text then text.drop legacyMark.length else text

/-- The role with this spelling in capital letters without blanks and mark. -/
def ofBareName? (text : String) : Option Role :=
  if text = "CUSTOMER" then some .customer
  else if text = "OWNER" ∨ text = "RESTAURANT_OWNER" then some .owner
  else if text = "ADMIN" then some .admin
  else if text = "USER" then some .user
  else none

/-- The role that a text spells, if any. -/
def ofText? (text : String) : Option Role :=
  ofBareName? (String.ofList (withoutMark ((Text.trimChars text.toList).map Char.toUpper)))

/-- The role that a text spells. -/
def parse (text : String) : Except Invalid Role :=
  match ofText? text with
  | some role => .ok role
  | none => .error (.role text)

/-- Add a role unless it is there already. -/
def addNew (roles : List Role) (role : Role) : List Role :=
  if role ∈ roles then roles else roles ++ [role]

/-- The roles in order of first occurrence, each of them once. -/
def distinct (roles : List Role) : List Role :=
  roles.foldl addNew []

/-- The roles that a comma list names, in order of first occurrence, each of them once. -/
def readList (text : String) : List Role :=
  distinct ((Text.commaList text).filterMap ofText?)

/-- The entries of a comma list that spell no role. -/
def unrecognised (text : String) : List String :=
  (Text.commaList text).filter fun entry => (ofText? entry).isNone

/-- The comma list of the names of these roles. -/
def writeList (roles : List Role) : String :=
  ",".intercalate (roles.map name)

theorem mem_addNew {roles : List Role} {added role : Role} :
    role ∈ addNew roles added ↔ role ∈ roles ∨ role = added := by
  unfold addNew
  split
  next h =>
    constructor
    · exact Or.inl
    · rintro (h' | rfl)
      · exact h'
      · exact h
  next h => simp

theorem nodup_addNew {roles : List Role} (added : Role) (h : roles.Nodup) :
    (addNew roles added).Nodup := by
  unfold addNew
  split
  · exact h
  next hmem =>
    rw [List.nodup_append]
    refine ⟨h, by simp, ?_⟩
    intro first hfirst second hsecond heq
    simp only [List.mem_singleton] at hsecond
    exact hmem (by rw [← hsecond, ← heq]; exact hfirst)

theorem mem_foldl_addNew {start roles : List Role} {role : Role} :
    role ∈ roles.foldl addNew start ↔ role ∈ start ∨ role ∈ roles := by
  induction roles generalizing start with
  | nil => simp
  | cons first rest ih => simp [ih, mem_addNew, or_assoc]

theorem nodup_foldl_addNew {start : List Role} (roles : List Role) (h : start.Nodup) :
    (roles.foldl addNew start).Nodup := by
  induction roles generalizing start with
  | nil => exact h
  | cons first rest ih => exact ih (nodup_addNew first h)

@[simp]
theorem mem_distinct {roles : List Role} {role : Role} : role ∈ distinct roles ↔ role ∈ roles := by
  simp [distinct, mem_foldl_addNew]

theorem nodup_distinct (roles : List Role) : (distinct roles).Nodup :=
  nodup_foldl_addNew roles List.nodup_nil

theorem distinct_ne_nil {roles : List Role} (h : roles ≠ []) : distinct roles ≠ [] := by
  cases roles with
  | nil => exact absurd rfl h
  | cons first rest =>
      intro hnil
      have : first ∈ distinct (first :: rest) := by simp
      rw [hnil] at this
      exact absurd this List.not_mem_nil

end Role

/-! ## Callers -/

structure Identity where
  userId : Int64
  roles : List Role
  email : String
  userId_pos : 0 < userId
  roles_ne_nil : roles ≠ []
  roles_nodup : roles.Nodup
  deriving DecidableEq

namespace Identity

/-- An identity with the roles in order of first occurrence; the user id is judged first. -/
def create (userId : Int64) (roles : List Role) (email : String) : Except Invalid Identity :=
  if hid : 0 < userId then
    if hroles : roles = [] then .error .noRole
    else
      .ok
        { userId, email
          roles := Role.distinct roles
          userId_pos := hid
          roles_ne_nil := Role.distinct_ne_nil hroles
          roles_nodup := Role.nodup_distinct roles }
  else .error (.userIdNotPositive userId)

/-- The first role that was presented. -/
def primaryRole (identity : Identity) : Role :=
  identity.roles.head identity.roles_ne_nil

def hasRole (identity : Identity) (role : Role) : Bool :=
  identity.roles.contains role

/-- At least one of the roles is held. -/
def hasAnyRole (identity : Identity) (roles : List Role) : Bool :=
  roles.any identity.hasRole

end Identity

end FoodOrdering
