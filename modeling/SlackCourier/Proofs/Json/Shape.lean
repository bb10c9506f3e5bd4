import SlackCourier.Json.Basic

/-!
# The shape of JSON values

How deep a value is, which numbers it has, and in which order the members of its
objects come. A list of members may name a key more than once and in any order;
gathered (`Members.gather`) it is in the order of its keys, with the last value of
each. Two lists in that order with the same value for every key are the same
(`Members.IsOrdered.ext`), so nothing else of a list of members is kept.

* `Members.value?_gather`: what is gathered under a key is its last value.
* `Json.ordered`: a value with the members of every object gathered, at any depth;
  a value that is in order already stays as it is (`Json.IsOrdered.ordered_eq`).
-/

namespace SlackCourier

/-! ## Members -/

namespace Members

variable {members members' : Members} {key key' : String} {value value' : Json}

/-- The keys come in strictly ascending order. -/
def IsOrdered (members : Members) : Prop :=
  members.Pairwise (·.1 < ·.1)

/-- The members in the order of their keys, with the last value of each key. -/
def gather (members : Members) : Members :=
  members.foldl (fun gathered member => gathered.put member.1 member.2) []

/-! ### Values -/

theorem value?_cons (member : String × Json) :
    value? key (member :: members) =
      if key = member.1 then some member.2 else value? key members := by
  rw [value?]

theorem value?_append :
    value? key (members ++ members') = (value? key members).or (value? key members') := by
  induction members with
  | nil => rfl
  | cons member members ih =>
    rw [List.cons_append, value?_cons, value?_cons, ih]
    split <;> rfl

theorem mem_of_value? (h : value? key members = some value) : (key, value) ∈ members := by
  induction members with
  | nil => cases h
  | cons member members ih =>
    rw [value?_cons] at h
    split at h
    · next hk =>
      obtain rfl := Option.some.inj h
      rw [hk]
      exact List.mem_cons_self
    · exact List.mem_cons_of_mem member (ih h)

/-- A member that is put among others is found there, and the others are too. -/
theorem value?_put :
    value? key' (members.put key value) =
      if key' = key then some value else value? key' members := by
  induction members with
  | nil => exact value?_cons _
  | cons member members ih =>
    obtain ⟨other, held⟩ := member
    rw [put]
    split
    · rw [value?_cons]
    · split
      · next h =>
        subst h
        rw [value?_cons, value?_cons]
        split <;> rfl
      · next h =>
        rw [value?_cons, value?_cons, ih]
        split
        · next hk => rw [if_neg (hk ▸ Ne.symm h)]
        · rfl

/-- Under a key the last value is gathered. -/
theorem value?_gather (members : Members) (key : String) :
    value? key members.gather = value? key members.reverse := by
  -- From the last member backwards, the first one with the key decides.
  rw [gather, ← List.foldr_reverse]
  induction members.reverse with
  | nil => rfl
  | cons member members ih => rw [List.foldr_cons, value?_put, ih, value?_cons]

/-! ### Order -/

theorem mem_put {member : String × Json} (h : member ∈ members.put key value) :
    member = (key, value) ∨ member ∈ members := by
  induction members with
  | nil => exact .inl (List.mem_singleton.mp h)
  | cons first members ih =>
    obtain ⟨other, held⟩ := first
    rw [put] at h
    split at h
    · exact List.mem_cons.mp h
    · split at h
      · exact (List.mem_cons.mp h).imp_right (List.mem_cons_of_mem _)
      · obtain rfl | h := List.mem_cons.mp h
        · exact .inr List.mem_cons_self
        · exact (ih h).imp_right (List.mem_cons_of_mem _)

/-- Putting a member in its place keeps the order. -/
theorem IsOrdered.put (h : members.IsOrdered) (key : String) (value : Json) :
    (members.put key value).IsOrdered := by
  induction members with
  | nil => exact List.pairwise_singleton _ _
  | cons first members ih =>
    obtain ⟨other, held⟩ := first
    obtain ⟨hf, hm⟩ := List.pairwise_cons.mp h
    rw [Members.put]
    split
    · next hk =>
      refine List.pairwise_cons.mpr ⟨List.forall_mem_cons.mpr ⟨hk, fun member h => ?_⟩, h⟩
      exact String.lt_trans hk (hf member h)
    · next hk =>
      split
      · next he => exact List.pairwise_cons.mpr ⟨he ▸ hf, hm⟩
      · next he =>
        -- The member belongs behind the first one.
        refine List.pairwise_cons.mpr ⟨fun member h => ?_, ih hm⟩
        obtain rfl | h := mem_put h
        · obtain hl | rfl | hl := Std.lt_trichotomy key other
          · exact absurd hl hk
          · exact absurd rfl he
          · exact hl
        · exact hf member h

/-- What is gathered is in order. -/
theorem isOrdered_gather (members : Members) : members.gather.IsOrdered := by
  rw [gather, ← List.foldr_reverse]
  induction members.reverse with
  | nil => exact List.Pairwise.nil
  | cons member members ih => exact ih.put member.1 member.2

/-- A member with a key past all others is put behind them. -/
theorem put_of_past (h : ∀ member ∈ members, member.1 < key) :
    members.put key value = members ++ [(key, value)] := by
  induction members with
  | nil => rfl
  | cons first members ih =>
    obtain ⟨other, held⟩ := first
    obtain ⟨hf, hm⟩ := List.forall_mem_cons.mp h
    rw [put, if_neg (String.lt_asymm hf), if_neg, ih hm, List.cons_append]
    rintro rfl
    exact String.lt_irrefl _ hf

/-- Members in order are gathered as they are. -/
theorem IsOrdered.gather_eq (h : members.IsOrdered) : members.gather = members := by
  rw [gather, ← List.foldr_reverse]
  rw [← List.reverse_reverse members] at h ⊢
  generalize members.reverse = reversed at h ⊢
  rw [List.reverse_reverse]
  induction reversed with
  | nil => rfl
  | cons member members ih =>
    -- The last member has the greatest key, so it is put at the end.
    rw [List.reverse_cons] at h ⊢
    obtain ⟨hm, -, hl⟩ := List.pairwise_append.mp h
    rw [List.foldr_cons, ih hm, put_of_past fun other ho => hl other ho member (by simp)]

theorem IsOrdered.value?_eq_some_iff (h : members.IsOrdered) :
    value? key members = some value ↔ (key, value) ∈ members := by
  refine ⟨mem_of_value?, fun hm => ?_⟩
  induction members with
  | nil => cases hm
  | cons first members ih =>
    obtain ⟨hf, ho⟩ := List.pairwise_cons.mp h
    rw [value?_cons]
    obtain rfl | hm := List.mem_cons.mp hm
    · exact if_pos rfl
    · rw [if_neg, ih ho hm]
      rintro rfl
      exact String.lt_irrefl _ (hf (first.1, value) hm)

theorem IsOrdered.nodup (h : members.IsOrdered) : members.Nodup := by
  refine h.imp ?_
  rintro member _ hl rfl
  exact String.lt_irrefl _ hl

/-- Members in order are known by their values. -/
theorem IsOrdered.ext (h : members.IsOrdered) (h' : members'.IsOrdered)
    (hv : ∀ key, value? key members = value? key members') : members = members' := by
  refine List.Perm.eq_of_pairwise (fun _ _ _ _ hl hg => absurd hg (String.lt_asymm hl)) h h' ?_
  refine (List.perm_ext_iff_of_nodup h.nodup h'.nodup).mpr fun ⟨key, value⟩ => ?_
  rw [← h.value?_eq_some_iff, ← h'.value?_eq_some_iff, hv]

end Members

/-! ## Values -/

namespace Json

/-- The numbers in the value are integers that 64 bits hold, with a sign or
    without: from `-2 ^ 63` to below `2 ^ 64`. -/
inductive IsIntegral : Json → Prop
  | null : IsIntegral .null
  | bool (value : Bool) : IsIntegral (.bool value)
  | number {value : Int} :
    -0x8000000000000000 ≤ value → value < 0x10000000000000000 →
    IsIntegral (.number (.integer value))
  | text (value : String) : IsIntegral (.text value)
  | list {items : List Json} : (∀ item ∈ items, IsIntegral item) → IsIntegral (.list items)
  | object {members : Members} :
    (∀ member ∈ members, IsIntegral member.2) → IsIntegral (.object members)

/-- The members of every object in the value are in order. -/
inductive IsOrdered : Json → Prop
  | null : IsOrdered .null
  | bool (value : Bool) : IsOrdered (.bool value)
  | number (value : Number) : IsOrdered (.number value)
  | text (value : String) : IsOrdered (.text value)
  | list {items : List Json} : (∀ item ∈ items, IsOrdered item) → IsOrdered (.list items)
  | object {members : Members} :
    members.IsOrdered → (∀ member ∈ members, IsOrdered member.2) → IsOrdered (.object members)

/-! ### Depth -/

mutual

/-- How many levels of lists and objects a value has. -/
def depth : Json → Nat
  | list items => depthOfItems items + 1
  | object members => depthOfMembers members + 1
  | _ => 0

/-- How many levels the deepest item has. -/
def depthOfItems : List Json → Nat
  | [] => 0
  | item :: items => max (depth item) (depthOfItems items)

/-- How many levels the deepest member has. -/
def depthOfMembers : List (String × Json) → Nat
  | [] => 0
  | (_, value) :: members => max (depth value) (depthOfMembers members)

end

theorem depth_lt_of_mem_items {items : List Json} {item : Json} (h : item ∈ items) :
    item.depth < (list items).depth := by
  rw [depth, Nat.lt_succ_iff]
  induction items with
  | nil => cases h
  | cons first items ih =>
    rw [depthOfItems]
    obtain rfl | h := List.mem_cons.mp h
    · exact Nat.le_max_left ..
    · exact Nat.le_trans (ih h) (Nat.le_max_right ..)

theorem depth_lt_of_mem_members {members : Members} {member : String × Json}
    (h : member ∈ members) : member.2.depth < (object members).depth := by
  rw [depth, Nat.lt_succ_iff]
  induction members with
  | nil => cases h
  | cons first members ih =>
    rw [depthOfMembers]
    obtain rfl | h := List.mem_cons.mp h
    · exact Nat.le_max_left ..
    · exact Nat.le_trans (ih h) (Nat.le_max_right ..)

/-- A list is as deep as its items make it. -/
theorem depth_list_le {items : List Json} {depth : Nat} (h : ∀ item ∈ items, item.depth ≤ depth) :
    (list items).depth ≤ depth + 1 := by
  rw [Json.depth, Nat.succ_le_succ_iff]
  induction items with
  | nil => exact Nat.zero_le depth
  | cons first items ih =>
    obtain ⟨hf, hi⟩ := List.forall_mem_cons.mp h
    exact Nat.max_le.mpr ⟨hf, ih hi⟩

/-- An object is as deep as its members make it. -/
theorem depth_object_le {members : Members} {depth : Nat}
    (h : ∀ member ∈ members, member.2.depth ≤ depth) : (object members).depth ≤ depth + 1 := by
  rw [Json.depth, Nat.succ_le_succ_iff]
  induction members with
  | nil => exact Nat.zero_le depth
  | cons first members ih =>
    obtain ⟨hf, hm⟩ := List.forall_mem_cons.mp h
    exact Nat.max_le.mpr ⟨hf, ih hm⟩

/-! ### Order -/

mutual

/-- The value with the members of every object gathered. -/
def ordered : Json → Json
  | list items => list (orderedItems items)
  | object members => object (Members.gather (orderedMembers members))
  | value => value

/-- Every item with its members gathered. -/
def orderedItems : List Json → List Json
  | [] => []
  | item :: items => ordered item :: orderedItems items

/-- Every member with the members of its value gathered. -/
def orderedMembers : List (String × Json) → List (String × Json)
  | [] => []
  | (key, value) :: members => (key, ordered value) :: orderedMembers members

end

theorem ordered_list (items : List Json) : ordered (.list items) = .list (items.map ordered) := by
  rw [ordered]
  congr 1
  induction items with
  | nil => rfl
  | cons item items ih => rw [orderedItems, ih, List.map_cons]

theorem ordered_object (members : Members) :
    ordered (.object members) =
      .object (Members.gather (members.map fun member => (member.1, ordered member.2))) := by
  rw [ordered]
  congr 2
  induction members with
  | nil => rfl
  | cons member members ih =>
    rw [orderedMembers, ih, List.map_cons]

/-- A value that is in order stays as it is. -/
theorem IsOrdered.ordered_eq {value : Json} (h : value.IsOrdered) : value.ordered = value := by
  induction h with
  | list _ ih => rw [ordered_list, List.map_congr_left ih, List.map_id']
  | object hm _ ih =>
    have hi := List.map_congr_left fun member h => congrArg (Prod.mk member.1) (ih member h)
    rw [ordered_object, hi, List.map_id', hm.gather_eq]
  | _ => rfl

end Json

end SlackCourier
