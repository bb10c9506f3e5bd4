import SlackCourier.Proofs.Json.Fields
import SlackCourier.Proofs.Json.Reading

/-!
# The order of members does not matter

A value whose keys differ in every object is the same value in whatever order the
members of its objects are written (`Rearranges`). Gathered, they have one order: it is
that of the value itself (`Rearranges.ordered_eq`), and nothing else of the value is
changed by gathering them (`rearranges_ordered`).

* `IsTextOf`: the octets are a text of the value, with its members in any order.
* `parse_of_isTextOf`: every text of a value is read as the value in order.
-/

namespace SlackCourier

/-! ## Members -/

namespace Members

variable {members members' : Members}

/-- Where no key comes twice, the order of the members is lost. -/
theorem gather_eq_of_perm (h : members.Perm members') (hn : (members.map Prod.fst).Nodup) :
    members'.gather = members.gather := by
  refine (isOrdered_gather _).ext (isOrdered_gather _) fun key => ?_
  rw [value?_gather, value?_gather, value?_reverse, value?_reverse, values_eq_of_perm h hn]

/-- A member with a new key is put among the others, and they stay. -/
theorem put_perm {key : String} (value : Json) (h : key ∉ members.map Prod.fst) :
    (members.put key value).Perm ((key, value) :: members) := by
  induction members with
  | nil => exact .refl _
  | cons first members ih =>
    obtain ⟨other, held⟩ := first
    rw [List.map_cons, List.mem_cons, not_or] at h
    rw [put]
    split
    · exact .refl _
    · rw [if_neg h.1]
      exact ((ih h.2).cons _).trans (.swap _ _ _)

/-- Where no key comes twice, no member is lost. -/
theorem gather_perm (hn : (members.map Prod.fst).Nodup) : members.gather.Perm members := by
  rw [gather, ← List.foldr_reverse]
  refine .trans ?_ members.reverse_perm
  have hn : (members.reverse.map Prod.fst).Nodup :=
    (members.reverse_perm.map Prod.fst).nodup_iff.mpr hn
  generalize members.reverse = reversed at hn ⊢
  induction reversed with
  | nil => exact .refl _
  | cons member members ih =>
    obtain ⟨hm, hn⟩ := List.nodup_cons.mp hn
    rw [List.foldr_cons]
    refine (put_perm member.2 ?_).trans ((ih hn).cons member)
    exact mt ((ih hn).map Prod.fst).mem_iff.mp hm

end Members

namespace Json

variable {value value' : Json} {octets : Octets}

/-! ## Values -/

/-- The keys of every object in the value differ. -/
inductive HasDistinctKeys : Json → Prop
  | null : HasDistinctKeys .null
  | bool (value : Bool) : HasDistinctKeys (.bool value)
  | number (value : Number) : HasDistinctKeys (.number value)
  | text (value : String) : HasDistinctKeys (.text value)
  | list {items : List Json} :
    (∀ item ∈ items, HasDistinctKeys item) → HasDistinctKeys (.list items)
  | object {members : Members} :
    (members.map Prod.fst).Nodup → (∀ member ∈ members, HasDistinctKeys member.2) →
    HasDistinctKeys (.object members)

/-- A member of an object and what becomes of its value. -/
structure RearrangedMember where
  key : String
  value : Json
  value' : Json

namespace RearrangedMember

/-- The member as it was. -/
def before (rearranged : RearrangedMember) : String × Json :=
  (rearranged.key, rearranged.value)

/-- The member as it is then. -/
def after (rearranged : RearrangedMember) : String × Json :=
  (rearranged.key, rearranged.value')

end RearrangedMember

/-- The same value, but for the order in which the members of its objects come. -/
inductive Rearranges : Json → Json → Prop
  | null : Rearranges .null .null
  | bool (value : Bool) : Rearranges (.bool value) (.bool value)
  | number (value : Number) : Rearranges (.number value) (.number value)
  | text (value : String) : Rearranges (.text value) (.text value)
  | list {items : List (Json × Json)} :
    (∀ item ∈ items, Rearranges item.1 item.2) →
    Rearranges (.list (items.map Prod.fst)) (.list (items.map Prod.snd))
  | object {members : List RearrangedMember} {arranged : Members} :
    (∀ member ∈ members, Rearranges member.value member.value') →
    (members.map RearrangedMember.after).Perm arranged →
    Rearranges (.object (members.map RearrangedMember.before)) (.object arranged)

/-- In another order a value is no deeper. -/
theorem Rearranges.depth_le (h : Rearranges value value') : value'.depth ≤ value.depth := by
  induction h with
  | @list items _ ih =>
    rw [show depth (.list (items.map Prod.fst)) = depthOfItems (items.map Prod.fst) + 1 from rfl]
    refine depth_list_le (List.forall_mem_map.mpr fun item hi => ?_)
    have := depth_lt_of_mem_items (List.mem_map_of_mem (f := Prod.fst) hi)
    exact Nat.le_of_lt_succ (Nat.lt_of_le_of_lt (ih item hi) this)
  | @object members arranged _ hp ih =>
    refine depth_object_le fun member hm => ?_
    obtain ⟨rearranged, hr, rfl⟩ := List.mem_map.mp (hp.mem_iff.mpr hm)
    have := depth_lt_of_mem_members (List.mem_map_of_mem (f := RearrangedMember.before) hr)
    exact Nat.le_of_lt_succ (Nat.lt_of_le_of_lt (ih rearranged hr) this)
  | _ => exact Nat.le_refl _

/-- In order, a value is the same in whatever order its members came. -/
theorem Rearranges.ordered_eq (h : Rearranges value value') (hk : value.HasDistinctKeys) :
    value'.ordered = value.ordered := by
  induction h with
  | @list items _ ih =>
    cases hk with
    | list hk =>
      rw [ordered_list, ordered_list, List.map_map, List.map_map]
      exact congrArg Json.list (List.map_congr_left fun item hi =>
        ih item hi (hk _ (List.mem_map_of_mem hi)))
  | @object members arranged _ hp ih =>
    cases hk with
    | object hn hk =>
      let inOrder (member : String × Json) : String × Json := (member.1, member.2.ordered)
      have hb : (members.map RearrangedMember.before).map inOrder =
          (members.map RearrangedMember.after).map inOrder := by
        rw [List.map_map, List.map_map]
        refine List.map_congr_left fun member hm => congrArg (Prod.mk member.key) ?_
        exact (ih member hm (hk _ (List.mem_map_of_mem hm))).symm
      have hn' : (((members.map RearrangedMember.before).map inOrder).map Prod.fst).Nodup := by
        rwa [List.map_map]
      rw [ordered_object, ordered_object]
      refine congrArg Json.object (Members.gather_eq_of_perm ?_ hn')
      rw [hb]
      exact hp.map inOrder
  | _ => rfl

/-- In order, a value is the same but for the order of its members. -/
theorem rearranges_ordered (hk : value.HasDistinctKeys) : Rearranges value value.ordered := by
  induction hk with
  | null => exact .null
  | bool value => exact .bool value
  | number value => exact .number value
  | text value => exact .text value
  | @list items _ ih =>
    have hr : Rearranges (.list ((items.map fun item => (item, item.ordered)).map Prod.fst)) _ :=
      .list (List.forall_mem_map.mpr ih)
    rw [List.map_map, List.map_map, show Prod.fst ∘ (fun item : Json => (item, item.ordered)) = id
      from rfl, List.map_id] at hr
    rw [ordered_list]
    exact hr
  | @object members hn _ ih =>
    let rearranged (member : String × Json) : RearrangedMember :=
      ⟨member.1, member.2, member.2.ordered⟩
    have hp : ((members.map rearranged).map RearrangedMember.after).Perm
        (Members.gather (members.map fun member => (member.1, member.2.ordered))) := by
      rw [List.map_map]
      refine (Members.gather_perm ?_).symm
      rwa [List.map_map]
    have hr : Rearranges (.object ((members.map rearranged).map RearrangedMember.before)) _ :=
      .object (List.forall_mem_map.mpr ih) hp
    rwa [List.map_map, show RearrangedMember.before ∘ rearranged = id from rfl, List.map_id,
      ← ordered_object] at hr

/-! ## Texts -/

/-- The octets are a text of the value: they spell it with the members of its objects in
    some order. -/
def IsTextOf (value : Json) (octets : Octets) : Prop :=
  ∃ arranged, Rearranges value arranged ∧ Spells arranged octets

/-- Every text of a value is read as the value in order, if it is not too deep. -/
theorem parse_of_isTextOf (hk : value.HasDistinctKeys) (hd : value.depth ≤ greatestDepth)
    (h : value.IsTextOf octets) : parse octets = .ok value.ordered := by
  obtain ⟨arranged, hr, hs⟩ := h
  rw [parse_of_spells hs (Nat.le_trans hr.depth_le hd), hr.ordered_eq hk]

end Json

end SlackCourier
