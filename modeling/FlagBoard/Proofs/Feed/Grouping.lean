import FlagBoard.Feed.ChallengeBrowser
import Mathlib

/-!
Challenges grouped by category. The groups are a partition of the challenges that keeps their order:
the categories stand in the order in which they first appear, and a group is what is left of all
challenges when the others are taken away.
-/

namespace FlagBoard

namespace Group

section Adding

variable {challenge : Challenge} {groups : List Group}

/-- A challenge of a new category gets a group of its own. -/
theorem add_new (new : challenge.category ∉ groups.map category) :
    add challenge groups = groups ++ [⟨challenge.category, [challenge]⟩] := by
  induction groups with
  | nil => rfl
  | cons first rest induction =>
      rw [List.map_cons, List.mem_cons, not_or] at new
      rw [add, if_neg (Ne.symm new.1), induction new.2, List.cons_append]

/-- The categories after one more challenge. -/
theorem categories_add : (add challenge groups).map category =
    if challenge.category ∈ groups.map category then groups.map category
    else groups.map category ++ [challenge.category] := by
  induction groups with
  | nil => rfl
  | cons first rest induction =>
      by_cases same : first.category = challenge.category
      · simp [add, same]
      · simp only [add, if_neg same, List.map_cons, List.mem_cons, Ne.symm same, false_or,
          induction]
        split <;> rfl

/-- A group of the category of one more challenge gets it at its end, as long as no other group is
of that category; all other groups stay as they are. -/
theorem add_known {before after : List Group} {members : List Challenge}
    (first : challenge.category ∉ before.map category) :
    add challenge (before ++ ⟨challenge.category, members⟩ :: after) =
      before ++ ⟨challenge.category, members ++ [challenge]⟩ :: after := by
  induction before with
  | nil => simp [add]
  | cons group rest induction =>
      rw [List.map_cons, List.mem_cons, not_or] at first
      rw [List.cons_append, add, if_neg (Ne.symm first.1), induction first.2, List.cons_append]

/-- Nothing is lost when a challenge is added, and nothing comes to it but the challenge. -/
theorem flatMap_add_perm :
    ((add challenge groups).flatMap challenges).Perm
      (groups.flatMap challenges ++ [challenge]) := by
  induction groups with
  | nil => rfl
  | cons first rest induction =>
      by_cases same : first.category = challenge.category
      · simp only [add, if_pos same, List.flatMap_cons, List.append_assoc]
        exact List.perm_append_comm.append_left _
      · simp only [add, if_neg same, List.flatMap_cons, List.append_assoc]
        exact induction.append_left _

end Adding

def only (category : String) (challenges : List Challenge) : List Challenge :=
  challenges.filter fun challenge => challenge.category = category

/-- What groups of challenges are: the challenges in parts, one for each category. -/
structure Partitions (all : List Challenge) (groups : List Group) : Prop where
  /-- The categories stand in the order in which they first appear. -/
  inOrder : (groups.map category).Pairwise fun earlier later =>
    (all.map Challenge.category).idxOf earlier < (all.map Challenge.category).idxOf later
  whole : ∀ group ∈ groups, group.challenges ≠ [] ∧ group.challenges = only group.category all
  perm : (groups.flatMap challenges).Perm all

section Partitioning

variable {all : List Challenge} {groups : List Group}

theorem Partitions.distinct (parts : Partitions all groups) : (groups.map category).Nodup := by
  apply parts.inOrder.imp
  rintro earlier later before rfl
  exact lt_irrefl _ before

/-- Every challenge of a group is of its category. -/
theorem Partitions.own (parts : Partitions all groups) {group : Group} (member : group ∈ groups) :
    ∀ challenge ∈ group.challenges, challenge.category = group.category := by
  intro challenge inside
  rw [(parts.whole group member).2, only, List.mem_filter, decide_eq_true_eq] at inside
  exact inside.2

theorem Partitions.mem_categories_iff (parts : Partitions all groups) (name : String) :
    name ∈ groups.map category ↔ name ∈ all.map Challenge.category := by
  simp only [List.mem_map]
  constructor
  · rintro ⟨group, member, rfl⟩
    obtain ⟨first, inside⟩ := List.exists_mem_of_ne_nil _ (parts.whole group member).1
    exact ⟨first, parts.perm.mem_iff.mp (List.mem_flatMap.mpr ⟨group, member, inside⟩),
      parts.own member first inside⟩
  · rintro ⟨challenge, given, rfl⟩
    obtain ⟨group, member, inside⟩ := List.mem_flatMap.mp (parts.perm.mem_iff.mpr given)
    exact ⟨group, member, (parts.own member challenge inside).symm⟩

/-- There is no group only if there is no challenge. -/
theorem Partitions.eq_nil_iff (parts : Partitions all groups) : groups = [] ↔ all = [] := by
  constructor
  · rintro rfl
    exact parts.perm.nil_eq.symm
  · rintro rfl
    rw [List.eq_nil_iff_forall_not_mem]
    intro group member
    exact (parts.whole group member).1 (parts.whole group member).2

theorem in_order_add (parts : Partitions all groups) (challenge : Challenge) :
    ((add challenge groups).map category).Pairwise fun earlier later =>
      ((all ++ [challenge]).map Challenge.category).idxOf earlier <
        ((all ++ [challenge]).map Challenge.category).idxOf later := by
  have kept : (groups.map category).Pairwise fun earlier later =>
      ((all ++ [challenge]).map Challenge.category).idxOf earlier <
        ((all ++ [challenge]).map Challenge.category).idxOf later := by
    apply parts.inOrder.imp_of_mem
    intro earlier later first second before
    rw [parts.mem_categories_iff] at first second
    rwa [List.map_append, List.idxOf_append_of_mem first, List.idxOf_append_of_mem second]
  rw [categories_add]
  split
  · exact kept
  · rename_i new
    rw [List.pairwise_append]
    refine ⟨kept, List.pairwise_singleton _ _, ?_⟩
    intro earlier known later last
    obtain rfl := List.mem_singleton.mp last
    rw [parts.mem_categories_iff] at new known
    rw [List.map_append, List.idxOf_append_of_mem known, List.idxOf_append_of_notMem new]
    exact (List.idxOf_lt_length_of_mem known).trans_le (Nat.le_add_right _ _)

theorem only_append_other {name : String} {challenge : Challenge}
    (other : challenge.category ≠ name) : only name (all ++ [challenge]) = only name all := by
  simp [only, other]

theorem only_append_own (challenge : Challenge) :
    only challenge.category (all ++ [challenge]) = only challenge.category all ++ [challenge] := by
  simp [only]

theorem whole_add (parts : Partitions all groups) (challenge : Challenge) :
    ∀ group ∈ add challenge groups, group.challenges ≠ [] ∧
      group.challenges = only group.category (all ++ [challenge]) := by
  -- Groups of other categories do not change, and have nothing to take in either.
  have others : ∀ group ∈ groups, group.category ≠ challenge.category →
      group.challenges ≠ [] ∧ group.challenges = only group.category (all ++ [challenge]) := by
    intro group member other
    rw [only_append_other (Ne.symm other)]
    exact parts.whole group member
  by_cases known : challenge.category ∈ groups.map category
  · obtain ⟨⟨name, members⟩, member, same⟩ := List.mem_map.mp known
    obtain rfl : name = challenge.category := same
    obtain ⟨before, after, rfl⟩ := List.append_of_mem member
    have distinct := parts.distinct
    simp only [List.map_append, List.map_cons, List.nodup_append, List.nodup_cons,
      List.mem_cons] at distinct
    have notBefore : challenge.category ∉ before.map category :=
      fun before => distinct.2.2 _ before _ (.inl rfl) rfl
    rw [add_known notBefore]
    intro group inside
    rw [List.mem_append, List.mem_cons] at inside
    rcases inside with earlier | rfl | later
    · refine others group (List.mem_append_left _ earlier) fun same => notBefore ?_
      exact List.mem_map.mpr ⟨group, earlier, same⟩
    · refine ⟨List.concat_ne_nil _ _, ?_⟩
      rw [only_append_own, ← (parts.whole _ member).2]
    · refine others group (by simp [later]) fun same => distinct.2.1.1 ?_
      exact List.mem_map.mpr ⟨group, later, same⟩
  · have first : only challenge.category all = [] := by
      rw [parts.mem_categories_iff] at known
      simpa [only] using known
    rw [add_new known]
    intro group inside
    rw [List.mem_append, List.mem_singleton] at inside
    rcases inside with earlier | rfl
    · exact others group earlier fun same => known (List.mem_map.mpr ⟨group, earlier, same⟩)
    · rw [only_append_own, first]
      exact ⟨List.cons_ne_nil _ _, rfl⟩

/-- One more challenge leaves groups what they are. -/
theorem partitions_add (parts : Partitions all groups) (challenge : Challenge) :
    Partitions (all ++ [challenge]) (add challenge groups) :=
  ⟨in_order_add parts challenge, whole_add parts challenge,
    flatMap_add_perm.trans (parts.perm.append_right _)⟩

theorem partitions_of_challenges (all : List Challenge) : Partitions all (ofChallenges all) := by
  induction all using List.reverseRecOn with
  | nil => exact ⟨.nil, nofun, .nil⟩
  | append_singleton rest challenge induction =>
      rw [ofChallenges, List.foldl_append]
      exact partitions_add induction challenge

end Partitioning

section Regrouping

/-- Challenges of the last group's category all go to it. -/
theorem fold_members {name : String} {before : List Group} (new : name ∉ before.map category)
    (members more : List Challenge) (own : ∀ challenge ∈ more, challenge.category = name) :
    more.foldl (fun groups challenge => add challenge groups) (before ++ [⟨name, members⟩]) =
      before ++ [⟨name, members ++ more⟩] := by
  induction more generalizing members with
  | nil => simp
  | cons challenge rest induction =>
      rw [List.forall_mem_cons] at own
      obtain ⟨rfl, own⟩ := own
      rw [List.foldl_cons, add_known new, induction _ own, List.append_assoc, List.singleton_append]

/-- Groups of different categories come about again from their challenges, group after group. -/
theorem fold_groups (before groups : List Group)
    (distinct : ((before ++ groups).map category).Nodup)
    (filled : ∀ group ∈ groups, group.challenges ≠ [])
    (own : ∀ group ∈ groups, ∀ challenge ∈ group.challenges, challenge.category = group.category) :
    (groups.flatMap challenges).foldl (fun groups challenge => add challenge groups) before =
      before ++ groups := by
  induction groups generalizing before with
  | nil => simp
  | cons group rest induction =>
      obtain ⟨name, members⟩ := group
      rw [List.forall_mem_cons] at filled own
      have next := induction (before ++ [⟨name, members⟩]) (by simpa using distinct) filled.2 own.2
      rw [List.map_append, List.map_cons, List.nodup_append] at distinct
      have new : name ∉ before.map category :=
        fun known => distinct.2.2 _ known _ (List.mem_cons_self ..) rfl
      match members, filled.1, own.1 with
      | first :: more, _, ownFirst =>
          rw [List.forall_mem_cons] at ownFirst
          obtain ⟨rfl, ownMore⟩ := ownFirst
          rw [List.flatMap_cons, List.foldl_append, List.foldl_cons, add_new new,
            fold_members new _ _ ownMore, List.singleton_append, next, List.append_assoc,
            List.singleton_append]

end Regrouping

end Group

/-- Grouping is a stable partition. The categories of the groups are all different and stand in the
order in which they first appear; a group is never empty and is what there is of its category, in
order of arrival; so the groups hold all challenges, each once. There is no group only if there is
no challenge, and grouping what the groups hold gives the same groups. -/
theorem challenges_grouped_stably (challenges : List Challenge) :
    let groups := Group.ofChallenges challenges
    let categories := challenges.map Challenge.category
    (groups.map Group.category).Nodup ∧
      (groups.map Group.category).Pairwise (fun earlier later =>
        categories.idxOf earlier < categories.idxOf later) ∧
      (∀ group ∈ groups, group.challenges ≠ [] ∧
        group.challenges = challenges.filter fun challenge => challenge.category = group.category) ∧
      (groups.flatMap Group.challenges).Perm challenges ∧
      (groups.isEmpty = true ↔ challenges = []) ∧
      Group.ofChallenges (groups.flatMap Group.challenges) = groups := by
  intro groups categories
  have parts := Group.partitions_of_challenges challenges
  have filled : ∀ group ∈ groups, group.challenges ≠ [] :=
    fun group member => (parts.whole group member).1
  have again := Group.fold_groups [] groups parts.distinct filled fun group member =>
    parts.own member
  refine ⟨parts.distinct, parts.inOrder, parts.whole, parts.perm, ?_, again⟩
  rw [List.isEmpty_iff]
  exact parts.eq_nil_iff

end FlagBoard
