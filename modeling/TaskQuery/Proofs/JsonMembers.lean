/-
# Members of JSON objects

An object is what its members say when they are looked up by name. A document may repeat a
name, and then its last value is the one that counts; the normal form has each name once, in
increasing order, so no two normal forms say the same.

Normal form is kept by what is done to members afterwards: leaving out names, changing values
and bringing them into normal form again.
-/

import Mathlib.Data.List.Nodup
import TaskQuery.Json.Basic

namespace TaskQuery.Json

variable {members : List (String × Json)}

/-! ## Looking members up -/

theorem lookup_cons_ite (name : String) (member : String × Json) (rest : List (String × Json)) :
    (member :: rest).lookup name = if name = member.1 then some member.2 else rest.lookup name := by
  obtain ⟨key, value⟩ := member
  rw [List.lookup_cons]
  by_cases isName : name = key
  · rw [if_pos isName, beq_iff_eq.mpr isName]
  · rw [if_neg isName, beq_eq_false_iff_ne.mpr isName]

theorem lookup_map_value (change : Json → Json) (name : String) (members : List (String × Json)) :
    (members.map fun member => (member.1, change member.2)).lookup name =
      (members.lookup name).map change := by
  induction members with
  | nil => rfl
  | cons member rest ih =>
      rw [List.map_cons, lookup_cons_ite, lookup_cons_ite, ih, apply_ite (Option.map change)]
      rfl

/-- Leaving out members by their names does not touch the others. -/
theorem lookup_filter_name (keep : String → Bool) (name : String)
    (members : List (String × Json)) :
    (members.filter fun member => keep member.1).lookup name =
      if keep name then members.lookup name else none := by
  induction members with
  | nil => simp
  | cons member rest ih =>
      rw [List.filter_cons, lookup_cons_ite]
      by_cases isName : name = member.1
      · rw [if_pos isName, ← isName]
        split
        · rw [lookup_cons_ite, if_pos isName]
        · rw [ih, if_neg ‹_›]
      · rw [if_neg isName, ← ih]
        split
        · rw [lookup_cons_ite, if_neg isName]
        · rfl

theorem lookup_eq_head?_filter (name : String) (members : List (String × Json)) :
    members.lookup name = (members.filter fun member => member.1 == name).head?.map Prod.snd := by
  induction members with
  | nil => rfl
  | cons member rest ih =>
      rw [lookup_cons_ite, List.filter_cons]
      by_cases isName : member.1 = name
      · rw [if_pos isName.symm, if_pos (beq_iff_eq.mpr isName), List.head?_cons, Option.map_some]
      · rw [if_neg (Ne.symm isName), if_neg (mt beq_iff_eq.mp isName), ih]

/-- It does not matter from which end a name is looked up that occurs once. -/
theorem lookup_reverse_of_once {name : String}
    (once : (members.filter fun member => member.1 == name).length ≤ 1) :
    members.reverse.lookup name = members.lookup name := by
  rw [lookup_eq_head?_filter, lookup_eq_head?_filter, List.filter_reverse]
  generalize members.filter (fun member => member.1 == name) = named at once ⊢
  match named, once with
  | [], _ => rfl
  | [_], _ => rfl
  | _ :: _ :: _, many => simp at many

theorem length_filter_name_le_one (distinct : (members.map Prod.fst).Nodup) (name : String) :
    (members.filter fun member => member.1 == name).length ≤ 1 := by
  have counted := List.nodup_iff_count.mp distinct name
  rw [List.count, List.countP_map, List.countP_eq_length_filter] at counted
  exact counted

/-- Where no name is repeated, members are what is found by their names. -/
theorem mem_iff_lookup_eq_some (distinct : (members.map Prod.fst).Nodup)
    {member : String × Json} : member ∈ members ↔ members.lookup member.1 = some member.2 := by
  induction members with
  | nil => simp
  | cons first rest ih =>
      rw [List.map_cons, List.nodup_cons] at distinct
      rw [List.mem_cons, lookup_cons_ite]
      by_cases isFirst : member.1 = first.1
      · have notBehind : member ∉ rest := fun behind =>
          distinct.1 (isFirst ▸ List.mem_map_of_mem behind)
        rw [if_pos isFirst, Option.some_inj, Prod.ext_iff]
        simp [notBehind, isFirst, eq_comm]
      · have notFirst : member ≠ first := fun same => isFirst (congrArg Prod.fst same)
        rw [if_neg isFirst, ← ih distinct.2]
        simp [notFirst]

/-! ## Increasing names -/

/-- The names of the members increase. -/
def Increasing (members : List (String × Json)) : Prop :=
  members.Pairwise fun member other => member.1 < other.1

namespace Increasing

theorem nodup_names (increasing : Increasing members) : (members.map Prod.fst).Nodup := by
  refine List.pairwise_map.mpr (increasing.imp fun less same => ?_)
  rw [same] at less
  exact String.lt_irrefl _ less

theorem filter (increasing : Increasing members) (keep : String × Json → Bool) :
    Increasing (members.filter keep) :=
  increasing.sublist List.filter_sublist

/-- Increasing members are determined by what is found among them. -/
theorem ext {others : List (String × Json)} (increasing : Increasing members)
    (othersIncreasing : Increasing others)
    (same : ∀ name, members.lookup name = others.lookup name) : members = others := by
  have permuted : members.Perm others := by
    refine (List.perm_ext_iff_of_nodup increasing.nodup_names.of_map
      othersIncreasing.nodup_names.of_map).mpr fun member => ?_
    rw [mem_iff_lookup_eq_some increasing.nodup_names,
      mem_iff_lookup_eq_some othersIncreasing.nodup_names, same]
  refine permuted.eq_of_pairwise (fun member other _ _ less greater => ?_) increasing
    othersIncreasing
  exact absurd (String.lt_trans less greater) (String.lt_irrefl _)

end Increasing

/-! ## Sorting members -/

variable {name : String} {value : Json}

theorem lookup_insertMember (name : String) (value : Json) (key : String)
    (members : List (String × Json)) :
    (insertMember name value members).lookup key =
      if key = name then some value else members.lookup key := by
  induction members with
  | nil => exact lookup_cons_ite key (name, value) []
  | cons member rest ih =>
      obtain ⟨other, old⟩ := member
      rw [insertMember]
      split
      · exact lookup_cons_ite key (name, value) _
      split
      · rename_i same
        rw [lookup_cons_ite, lookup_cons_ite, ← same]
        split <;> rfl
      · rename_i different
        rw [lookup_cons_ite, lookup_cons_ite, ih]
        split
        · rename_i isOther
          rw [if_neg fun isName => different (isName.symm.trans isOther)]
        · rfl

theorem eq_or_mem_of_mem_insertMember {member : String × Json}
    (isMember : member ∈ insertMember name value members) :
    member.1 = name ∨ member ∈ members := by
  induction members with
  | nil => exact Or.inl (congrArg Prod.fst (List.mem_singleton.mp isMember))
  | cons first rest ih =>
      obtain ⟨other, old⟩ := first
      rw [insertMember] at isMember
      split at isMember
      · rcases List.mem_cons.mp isMember with rfl | behind
        · exact Or.inl rfl
        · exact Or.inr behind
      split at isMember
      · rcases List.mem_cons.mp isMember with rfl | behind
        · exact Or.inl rfl
        · exact Or.inr (List.mem_cons_of_mem _ behind)
      · rcases List.mem_cons.mp isMember with rfl | behind
        · exact Or.inr List.mem_cons_self
        · exact (ih behind).imp_right (List.mem_cons_of_mem _)

theorem Increasing.insertMember (increasing : Increasing members) :
    Increasing (Json.insertMember name value members) := by
  induction members with
  | nil => exact List.pairwise_singleton _ _
  | cons first rest ih =>
      obtain ⟨other, old⟩ := first
      obtain ⟨below, restIncreasing⟩ := List.pairwise_cons.mp increasing
      rw [Json.insertMember]
      split
      · rename_i less
        refine List.pairwise_cons.mpr ⟨fun member isMember => ?_, increasing⟩
        rcases List.mem_cons.mp isMember with rfl | behind
        · exact less
        · exact String.lt_trans less (below member behind)
      split
      · rename_i same
        exact List.pairwise_cons.mpr ⟨same ▸ below, restIncreasing⟩
      · rename_i notLess different
        have greater : other < name := by
          refine String.not_le.mp fun atMost => ?_
          exact different (String.le_antisymm atMost (String.not_lt.mp notLess))
        refine List.pairwise_cons.mpr ⟨fun member isMember => ?_, ih restIncreasing⟩
        rcases eq_or_mem_of_mem_insertMember isMember with isName | behind
        · exact isName ▸ greater
        · exact below member behind

/-- Members that are sorted into increasing ones leave them increasing. -/
theorem increasing_foldl_insertMember {sorted : List (String × Json)}
    (increasing : Increasing sorted) (members : List (String × Json)) :
    Increasing (members.foldl (fun sorted (name, value) => insertMember name value sorted)
      sorted) := by
  induction members generalizing sorted with
  | nil => exact increasing
  | cons member rest ih => exact ih increasing.insertMember

theorem lookup_foldl_insertMember (name : String) (sorted members : List (String × Json)) :
    (members.foldl (fun sorted (name, value) => insertMember name value sorted) sorted).lookup
      name = (members.reverse.lookup name).or (sorted.lookup name) := by
  induction members generalizing sorted with
  | nil => rfl
  | cons member rest ih =>
      rw [List.foldl_cons, ih, lookup_insertMember, List.reverse_cons, List.lookup_append,
        Option.or_assoc, lookup_cons_ite]
      split <;> rfl

theorem increasing_sortMembers (members : List (String × Json)) :
    Increasing (sortMembers members) :=
  increasing_foldl_insertMember List.Pairwise.nil members

/-- Of a name that is repeated, the last value counts. -/
theorem lookup_sortMembers (name : String) (members : List (String × Json)) :
    (sortMembers members).lookup name = members.reverse.lookup name := by
  rw [sortMembers, lookup_foldl_insertMember, List.lookup_nil, Option.or_none]

/-- Sorting is done when the names increase. -/
theorem sortMembers_of_increasing (increasing : Increasing members) :
    sortMembers members = members := by
  refine (increasing_sortMembers members).ext increasing fun name => ?_
  rw [lookup_sortMembers]
  exact lookup_reverse_of_once (length_filter_name_le_one increasing.nodup_names name)

/-- Sorting changes places with anything that is done to the values. -/
theorem map_sortMembers (change : Json → Json) (members : List (String × Json)) :
    (sortMembers members).map (fun member => (member.1, change member.2)) =
      sortMembers (members.map fun member => (member.1, change member.2)) := by
  have increasing : Increasing
      ((sortMembers members).map fun member => (member.1, change member.2)) :=
    List.pairwise_map.mpr (increasing_sortMembers members)
  refine increasing.ext (increasing_sortMembers _) fun name => ?_
  rw [lookup_map_value, lookup_sortMembers, lookup_sortMembers, ← List.map_reverse,
    lookup_map_value]

/-- Sorting changes places with leaving out names. -/
theorem filter_sortMembers (keep : String → Bool) (members : List (String × Json)) :
    (sortMembers members).filter (fun member => keep member.1) =
      sortMembers (members.filter fun member => keep member.1) := by
  refine ((increasing_sortMembers members).filter _).ext (increasing_sortMembers _) fun name => ?_
  rw [lookup_filter_name, lookup_sortMembers, lookup_sortMembers, ← List.filter_reverse,
    lookup_filter_name]

/-! ## Normal form -/

theorem normalItems_eq_map (items : List Json) : normalItems items = items.map normal := by
  induction items with
  | nil => rfl
  | cons item rest ih => rw [normalItems, ih, List.map_cons]

theorem normalMembers_eq_map (members : List (String × Json)) :
    normalMembers members = members.map fun member => (member.1, member.2.normal) := by
  induction members with
  | nil => rfl
  | cons member rest ih => rw [normalMembers, ih, List.map_cons]

/-- What is found in the normal form is the normal form of the last value of a name. -/
theorem get?_normal_object (name : String) (members : List (String × Json)) :
    (object members).normal.get? name = (members.reverse.lookup name).map normal := by
  rw [normal, get?, lookup_sortMembers, normalMembers_eq_map, ← List.map_reverse,
    lookup_map_value]

mutual

/-- A normal form is its own normal form. -/
theorem normal_normal : ∀ value : Json, value.normal.normal = value.normal
  | null => rfl
  | bool _ => rfl
  | number _ => rfl
  | string _ => rfl
  | array items => by rw [normal, normal, normalItems_normalItems items]
  | object members => by
      rw [normal, normal, normalMembers_eq_map, map_sortMembers, ← normalMembers_eq_map,
        normalMembers_normalMembers members, sortMembers_of_increasing (increasing_sortMembers _)]

theorem normalItems_normalItems :
    ∀ items : List Json, normalItems (normalItems items) = normalItems items
  | [] => rfl
  | item :: rest => by
      rw [normalItems, normalItems, normal_normal item, normalItems_normalItems rest]

theorem normalMembers_normalMembers :
    ∀ members : List (String × Json),
      normalMembers (normalMembers members) = normalMembers members
  | [] => rfl
  | (_, value) :: rest => by
      rw [normalMembers, normalMembers, normal_normal value, normalMembers_normalMembers rest]

end

end TaskQuery.Json
