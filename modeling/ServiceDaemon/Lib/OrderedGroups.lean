/-
Purpose: Items grouped by a key, with the groups in the order of their keys, and
  what a loop over the groups has passed when it stands at one of them.
Main exports: Passed, push, group
-/
import Mathlib

namespace OrderedGroups

universe u v

variable {Key : Type u} {Item : Type v}

/-- The items of the groups, in order. -/
def members (groups : List (Key × List Item)) : List Item :=
  groups.flatMap Prod.snd

theorem mem_members {groups : List (Key × List Item)} {item : Item} :
    item ∈ members groups ↔ ∃ group ∈ groups, item ∈ group.2 :=
  List.mem_flatMap

/-! ### Loops over a list -/

/-- A loop over a list has `rest` before it, and `seen` holds of what it has
passed. -/
def Passed (list : List Item) (seen : Item → Prop) (rest : List Item) : Prop :=
  ∃ passed, list = passed ++ rest ∧ ∀ item ∈ passed, seen item

namespace Passed

variable {list rest : List Item} {seen more : Item → Prop} {item : Item}

theorem start : Passed list seen list := ⟨[], rfl, by simp⟩

theorem mono (weaken : ∀ item, seen item → more item)
    (passed : Passed list seen rest) : Passed list more rest := by
  obtain ⟨front, split, known⟩ := passed
  exact ⟨front, split, fun item mem => weaken item (known item mem)⟩

theorem next (passed : Passed list seen (item :: rest)) (now : seen item) :
    Passed list seen rest := by
  obtain ⟨front, split, known⟩ := passed
  refine ⟨front ++ [item], by simp [split], ?_⟩
  intro other mem
  rcases List.mem_append.mp mem with mem | mem
  · exact known other mem
  · rw [List.mem_singleton.mp mem]
    exact now

theorem whole (passed : Passed list seen []) : ∀ item ∈ list, seen item := by
  obtain ⟨front, split, known⟩ := passed
  rw [split, List.append_nil]
  exact known

theorem mem (passed : Passed list seen (item :: rest)) : item ∈ list := by
  obtain ⟨front, split, _⟩ := passed
  simp [split]

end Passed

/-! ### Building the groups -/

section Build

variable [LinearOrder Key]

/-- Append an item to the group of its key, which is created when it is
missing. -/
def push (key : Key) (item : Item) :
    List (Key × List Item) → List (Key × List Item)
  | [] => [(key, [item])]
  | (first, items) :: groups =>
    if key < first then (key, [item]) :: (first, items) :: groups
    else if key = first then (first, items ++ [item]) :: groups
    else (first, items) :: push key item groups

/-- Group a list of items, one after the other. -/
def group (key : Item → Key) (items : List Item) : List (Key × List Item) :=
  items.foldl (fun groups item => push (key item) item groups) []

end Build

/-! ### Grouped lists -/

/-- `groups` holds the items of a list by their key, and its keys come in the
order of `before`. -/
structure Grouping (before : Key → Key → Prop) (key : Item → Key)
    (items : List Item) (groups : List (Key × List Item)) : Prop where
  ordered : groups.Pairwise fun first second => before first.1 second.1
  keyed : ∀ group ∈ groups, ∀ item ∈ group.2, key item = group.1
  complete : (members groups).Perm items

namespace Grouping

variable {before : Key → Key → Prop} {key : Item → Key} {items : List Item}
  {groups : List (Key × List Item)}

theorem reverse (grouping : Grouping before key items groups) :
    Grouping (fun first second => before second first) key items
      groups.reverse where
  ordered := List.pairwise_reverse.mpr grouping.ordered
  keyed := fun group mem =>
    grouping.keyed group (List.mem_reverse.mp mem)
  complete := ((List.reverse_perm groups).flatMap_right Prod.snd).trans grouping.complete

theorem group_of (grouping : Grouping before key items groups) {item : Item} (mem : item ∈ items) :
    ∃ group ∈ groups, item ∈ group.2 ∧ group.1 = key item := by
  obtain ⟨group, inside, belongs⟩ := mem_members.mp (grouping.complete.mem_iff.mpr mem)
  exact ⟨group, inside, belongs, (grouping.keyed group inside item belongs).symm⟩

/-- A key has one group. -/
theorem unique (grouping : Grouping before key items groups)
    (irreflexive : ∀ first, ¬ before first first) (here : first ∈ groups)
    (there : second ∈ groups) (same : first.1 = second.1) : first = second := by
  have distinct : (groups.map Prod.fst).Nodup := by
    refine List.pairwise_map.mpr (grouping.ordered.imp ?_)
    intro left right smaller equal
    rw [equal] at smaller
    exact irreflexive _ smaller
  exact List.inj_on_of_nodup_map distinct here there same

/-- A loop that stands at a group has passed the group of every item whose key
comes before the key of that group. -/
theorem mem_passed {seen : Key × List Item → Prop}
    (grouping : Grouping before key items groups) (irreflexive : ∀ first, ¬ before first first)
    (asymmetric : ∀ first second, before first second → ¬ before second first)
    (passed : Passed groups seen (cur :: rest)) (mem : item ∈ items)
    (earlier : before (key item) cur.1) :
    ∃ group, seen group ∧ item ∈ group.2 ∧ group.1 = key item := by
  obtain ⟨found, inside, belongs, keyOf⟩ := grouping.group_of mem
  rw [← keyOf] at earlier
  obtain ⟨front, split, known⟩ := passed
  have ordered := grouping.ordered
  rw [split, List.pairwise_append, List.pairwise_cons] at ordered
  rw [split, List.mem_append, List.mem_cons] at inside
  rcases inside with inside | rfl | inside
  · exact ⟨found, known found inside, belongs, keyOf⟩
  · exact absurd earlier (irreflexive _)
  · exact absurd earlier (asymmetric _ _ (ordered.2.1.1 found inside))

theorem nodup (grouping : Grouping before key items groups)
    (distinct : items.Nodup) : (members groups).Nodup :=
  grouping.complete.nodup_iff.mpr distinct

end Grouping

/-! ### What `group` builds -/

section Build

variable [LinearOrder Key] {key : Item → Key}

theorem perm_members_push (first : Key) (item : Item) (groups : List (Key × List Item)) :
    (members (push first item groups)).Perm (members groups ++ [item]) := by
  induction groups with
  | nil => exact .refl _
  | cons head groups ih =>
    obtain ⟨second, items⟩ := head
    simp only [push]
    split_ifs
    · exact (List.perm_append_singleton item _).symm
    · simp only [members, List.flatMap_cons, List.append_assoc]
      exact List.perm_append_comm.append_left items
    · simp only [members, List.flatMap_cons, List.append_assoc]
      exact ih.append_left items

/-- A key of the new groups is the pushed one or an old one. -/
theorem key_of_mem_push {first : Key} {item : Item} {groups : List (Key × List Item)}
    {found : Key × List Item} (mem : found ∈ push first item groups) :
    found.1 = first ∨ ∃ old ∈ groups, old.1 = found.1 := by
  induction groups with
  | nil =>
    rw [push, List.mem_singleton] at mem
    exact .inl (by rw [mem])
  | cons head groups ih =>
    obtain ⟨second, items⟩ := head
    simp only [push] at mem
    split_ifs at mem with smaller same
    · rcases List.mem_cons.mp mem with rfl | mem
      · exact .inl rfl
      · exact .inr ⟨found, mem, rfl⟩
    · rcases List.mem_cons.mp mem with rfl | mem
      · exact .inl same.symm
      · exact .inr ⟨found, List.mem_cons_of_mem _ mem, rfl⟩
    · rcases List.mem_cons.mp mem with rfl | mem
      · exact .inr ⟨_, List.mem_cons_self, rfl⟩
      · rcases ih mem with same | ⟨old, mem, same⟩
        · exact .inl same
        · exact .inr ⟨old, List.mem_cons_of_mem _ mem, same⟩

theorem ordered_push {first : Key} {item : Item} {groups : List (Key × List Item)}
    (ordered : groups.Pairwise fun left right => left.1 < right.1) :
    (push first item groups).Pairwise fun left right => left.1 < right.1 := by
  induction groups with
  | nil => exact List.pairwise_singleton _ _
  | cons head groups ih =>
    obtain ⟨second, items⟩ := head
    have after := List.pairwise_cons.mp ordered
    simp only [push]
    split_ifs with smaller same
    · refine List.pairwise_cons.mpr ⟨?_, ordered⟩
      intro other mem
      rcases List.mem_cons.mp mem with rfl | mem
      · exact smaller
      · exact smaller.trans (after.1 other mem)
    · exact List.pairwise_cons.mpr after
    · refine List.pairwise_cons.mpr ⟨?_, ih after.2⟩
      intro other mem
      rcases key_of_mem_push mem with equal | ⟨old, mem, equal⟩
      · rw [equal]
        exact lt_of_le_of_ne (not_lt.mp smaller) (Ne.symm same)
      · rw [← equal]
        exact after.1 old mem

theorem keyed_push (keyed : ∀ group ∈ groups, ∀ other ∈ group.2, key other = group.1) :
    ∀ group ∈ push (key item) item groups, ∀ other ∈ group.2,
      key other = group.1 := by
  induction groups with
  | nil =>
    intro group mem other inside
    rw [push, List.mem_singleton] at mem
    subst mem
    rw [List.mem_singleton.mp inside]
  | cons head groups ih =>
    obtain ⟨second, items⟩ := head
    have here := keyed _ List.mem_cons_self
    have there := fun group mem =>
      keyed group (List.mem_cons_of_mem _ mem)
    intro group mem other inside
    simp only [push] at mem
    split_ifs at mem with smaller same
    · rcases List.mem_cons.mp mem with rfl | mem
      · rw [List.mem_singleton.mp inside]
      · exact keyed group mem other inside
    · rcases List.mem_cons.mp mem with rfl | mem
      · rcases List.mem_append.mp inside with inside | inside
        · exact here other inside
        · rw [List.mem_singleton.mp inside]
          exact same
      · exact there group mem other inside
    · rcases List.mem_cons.mp mem with rfl | mem
      · exact here other inside
      · exact ih there group mem other inside

theorem Grouping.push {item : Item} {items : List Item} {groups : List (Key × List Item)}
    (grouping : Grouping (· < ·) key items groups) :
    Grouping (· < ·) key (items ++ [item])
      (push (key item) item groups) where
  ordered := ordered_push grouping.ordered
  keyed := keyed_push grouping.keyed
  complete := (perm_members_push _ item groups).trans (grouping.complete.append_right [item])

theorem Grouping.of_group (items : List Item) : Grouping (· < ·) key items (group key items) := by
  induction items using List.reverseRecOn with
  | nil => exact ⟨.nil, by simp [group], .refl _⟩
  | append_singleton items item ih =>
    rw [group, List.foldl_append]
    exact ih.push

end Build

end OrderedGroups
