import ClassWiki.Proofs.Doc.Styles
import Mathlib.Data.List.Pairwise

/-!
# Grouping of comments

The places of the comments in front of a site say which of them share a block: a block is
made of a maximal run of documentation lines, or of one block comment.  The places of the
blocks are in order and cover every documentation comment once.  A comment that is no
documentation line cuts the comments apart, so the blocks can be found by cutting at the
first such comment again and again.
-/

namespace ClassWiki.Doc

open Text

/-! ## Kinds of comments -/

def IsLine (comment : Text) : Prop :=
  ("///" : Text) <+: comment ∧ ¬("////" : Text) <+: comment

def IsBlock (comment : Text) : Prop := ("/**" : Text) <+: comment ∧ comment ≠ "/**/"

instance (comment : Text) : Decidable (IsLine comment) := inferInstanceAs (Decidable (_ ∧ _))

instance (comment : Text) : Decidable (IsBlock comment) := inferInstanceAs (Decidable (_ ∧ _))

theorem ofText_of_isLine {comment : Text} (h : IsLine comment) :
    Comment.ofText comment = .line (comment.drop 3) := by
  obtain ⟨⟨rest, rfl⟩, hslash⟩ := h
  show Comment.ofText ('/' :: '/' :: '/' :: rest) = .line rest
  unfold Comment.ofText
  split
  · next more heq =>
      cases heq
      exact absurd ⟨more, rfl⟩ hslash
  · next heq =>
      cases heq
      rfl
  all_goals simp_all

theorem not_isLine_of_isBlock {comment : Text} (h : IsBlock comment) : ¬IsLine comment := by
  obtain ⟨⟨rest, rfl⟩, -⟩ := h
  rintro ⟨⟨more, hmore⟩, -⟩
  cases hmore

theorem ofText_of_isBlock {comment : Text} (h : IsBlock comment) :
    Comment.ofText comment = .block (blockBody comment) := by
  obtain ⟨⟨rest, rfl⟩, hempty⟩ := h
  show Comment.ofText ('/' :: '*' :: '*' :: rest) = .block _
  unfold Comment.ofText
  split <;> simp_all

theorem ofText_of_plain {comment : Text} (hline : ¬IsLine comment) (hblock : ¬IsBlock comment) :
    Comment.ofText comment = .plain := by
  unfold Comment.ofText
  split
  · rfl
  · next rest hslash =>
      refine absurd ⟨⟨rest, rfl⟩, ?_⟩ hline
      rintro ⟨more, hmore⟩
      have hrest : ['/', '/', '/'] ++ '/' :: more = ['/', '/', '/'] ++ rest := hmore
      exact hslash more (List.append_cancel_left hrest).symm
  · rfl
  · next rest hempty => exact absurd ⟨⟨rest, rfl⟩, by simpa using hempty⟩ hblock
  · rfl

theorem ofText_ne_line {comment : Text} (h : ¬IsLine comment) (rest : Text) :
    Comment.ofText comment ≠ .line rest := by
  by_cases hblock : IsBlock comment
  · rw [ofText_of_isBlock hblock]
    simp
  · rw [ofText_of_plain h hblock]
    simp

/-! ## Cutting at a comment -/

theorem groupFrom_cut {cut : Comment} (hcut : ∀ rest, cut ≠ .line rest) (run : List Text)
    (before after : List Comment) :
    groupFrom run (before ++ cut :: after) =
      groupFrom run before ++ groupFrom [] [cut] ++ groupFrom [] after := by
  have hnone : runBlock [] = [] := rfl
  induction before generalizing run with
  | nil =>
      cases cut with
      | line rest => exact absurd rfl (hcut rest)
      | block body => simp [groupFrom, hnone]
      | plain => simp [groupFrom, hnone]
  | cons comment before ih => cases comment <;> simp [groupFrom, ih]

theorem blocks_cut {cut : Text} (hcut : ¬IsLine (strip cut)) (before after : List Text) :
    blocks (before ++ cut :: after) = blocks before ++ blocks [cut] ++ blocks after := by
  simp only [blocks, List.map_append, List.map_cons, List.map_nil]
  exact groupFrom_cut (ofText_ne_line hcut) [] _ _

/-! ## Places of blocks -/

/-- A block of documentation, made of the comments from one place up to another. -/
structure Group where
  start : Nat
  stop : Nat
  text : Text

def Group.Covers (group : Group) (k : Nat) : Prop := group.start ≤ k ∧ k < group.stop

/-- The groups have no place in common. -/
def Group.Apart (group other : Group) : Prop :=
  group.stop ≤ other.start ∨ other.stop ≤ group.start

instance : Std.Symm Group.Apart := ⟨fun _ _ => Or.symm⟩

def Group.shift (n : Nat) (group : Group) : Group :=
  ⟨n + group.start, n + group.stop, group.text⟩

def LineAt (comments : List Text) (k : Nat) : Prop :=
  ∃ comment, comments[k]? = some comment ∧ IsLine comment

def BlockAt (comments : List Text) (k : Nat) : Prop :=
  ∃ comment, comments[k]? = some comment ∧ IsBlock comment

instance (comments : List Text) (k : Nat) : Decidable (LineAt comments k) :=
  decidable_of_iff (comments[k]?.any (IsLine ·) = true)
    (by simp only [Option.any_eq_true, decide_eq_true_eq, LineAt])

instance (comments : List Text) (k : Nat) : Decidable (BlockAt comments k) :=
  decidable_of_iff (comments[k]?.any (IsBlock ·) = true)
    (by simp only [Option.any_eq_true, decide_eq_true_eq, BlockAt])

/-- Documentation lines stand in all places from `start` up to `stop`, and in neither of the
places next to them. -/
structure IsRun (comments : List Text) (start stop : Nat) : Prop where
  start_lt_stop : start < stop
  lineAt : ∀ k, start ≤ k → k < stop → LineAt comments k
  left : ∀ k, k + 1 = start → ¬LineAt comments k
  right : ¬LineAt comments stop

inductive IsGroup (comments : List Text) : Group → Prop
  | run {start stop : Nat} (h : IsRun comments start stop) :
      IsGroup comments
        ⟨start, stop, unlines (((comments.take stop).drop start).map (List.drop 3))⟩
  | block {k : Nat} {comment : Text} (hget : comments[k]? = some comment)
      (h : IsBlock comment) : IsGroup comments ⟨k, k + 1, blockBody comment⟩

theorem LineAt.lt_length {comments : List Text} {k : Nat} (h : LineAt comments k) :
    k < comments.length := by
  obtain ⟨comment, hget, -⟩ := h
  exact (List.getElem?_eq_some_iff.1 hget).1

theorem IsRun.stop_le_length {comments : List Text} {start stop : Nat}
    (h : IsRun comments start stop) : stop ≤ comments.length := by
  have hstart := h.start_lt_stop
  have hlast := (h.lineAt (stop - 1) (by omega) (by omega)).lt_length
  omega

theorem IsGroup.bounds {comments : List Text} {group : Group} (h : IsGroup comments group) :
    group.start < group.stop ∧ group.stop ≤ comments.length := by
  cases h with
  | run hrun => exact ⟨hrun.start_lt_stop, hrun.stop_le_length⟩
  | block hget _ => exact ⟨Nat.lt_succ_self _, (List.getElem?_eq_some_iff.1 hget).1⟩

/-! ## Places around a cut -/

section

variable {before after : List Text} {cut : Text}

theorem getElem?_left {k : Nat} (h : k < before.length) :
    (before ++ cut :: after)[k]? = before[k]? :=
  List.getElem?_append_left h

theorem getElem?_cut : (before ++ cut :: after)[before.length]? = some cut := by
  simp

theorem getElem?_right (k : Nat) :
    (before ++ cut :: after)[before.length + 1 + k]? = after[k]? := by
  rw [List.getElem?_append_right (by omega)]
  have hindex : before.length + 1 + k - before.length = k + 1 := by omega
  rw [hindex, List.getElem?_cons_succ]

theorem lineAt_left_iff {k : Nat} (h : k < before.length) :
    LineAt (before ++ cut :: after) k ↔ LineAt before k := by
  rw [LineAt, getElem?_left h, LineAt]

theorem lineAt_right_iff (k : Nat) :
    LineAt (before ++ cut :: after) (before.length + 1 + k) ↔ LineAt after k := by
  rw [LineAt, getElem?_right, LineAt]

section

variable (hcut : ¬IsLine cut)

include hcut

theorem not_lineAt_cut : ¬LineAt (before ++ cut :: after) before.length := by
  rintro ⟨comment, hget, hline⟩
  rw [getElem?_cut] at hget
  cases hget
  exact hcut hline

theorem isRun_left_iff {start stop : Nat} (hstop : stop ≤ before.length) :
    IsRun (before ++ cut :: after) start stop ↔ IsRun before start stop := by
  have hright : LineAt (before ++ cut :: after) stop ↔ LineAt before stop := by
    rcases Nat.lt_or_eq_of_le hstop with hlt | rfl
    · exact lineAt_left_iff hlt
    · exact iff_of_false (not_lineAt_cut hcut) fun h => by
        have := h.lt_length
        omega
  constructor
  · intro h
    refine ⟨h.start_lt_stop, ?_, ?_, fun hstop => h.right (hright.2 hstop)⟩
    · intro k hlow hhigh
      exact (lineAt_left_iff (by omega)).1 (h.lineAt k hlow hhigh)
    · intro k hk hline
      exact h.left k hk ((lineAt_left_iff hline.lt_length).2 hline)
  · intro h
    have hstart := h.start_lt_stop
    refine ⟨h.start_lt_stop, ?_, ?_, fun hstop => h.right (hright.1 hstop)⟩
    · intro k hlow hhigh
      exact (lineAt_left_iff (by omega)).2 (h.lineAt k hlow hhigh)
    · intro k hk hline
      exact h.left k hk ((lineAt_left_iff (by omega)).1 hline)

theorem isRun_right_iff {start stop : Nat} :
    IsRun (before ++ cut :: after) (before.length + 1 + start) (before.length + 1 + stop) ↔
      IsRun after start stop := by
  constructor
  · intro h
    have hstart := h.start_lt_stop
    refine ⟨by omega, ?_, ?_, fun hstop => h.right ((lineAt_right_iff stop).2 hstop)⟩
    · intro k hlow hhigh
      exact (lineAt_right_iff k).1 (h.lineAt _ (by omega) (by omega))
    · intro k hk hline
      exact h.left _ (by omega) ((lineAt_right_iff k).2 hline)
  · intro h
    have hstart := h.start_lt_stop
    refine ⟨by omega, ?_, ?_, fun hstop => h.right ((lineAt_right_iff stop).1 hstop)⟩
    · intro k hlow hhigh
      obtain ⟨i, rfl⟩ := Nat.exists_eq_add_of_le (show before.length + 1 ≤ k by omega)
      exact (lineAt_right_iff i).2 (h.lineAt i (by omega) (by omega))
    · intro k hk hline
      -- In front of the first place behind the cut stands the cut itself.
      rcases Nat.lt_or_ge before.length k with hlt | hle
      · obtain ⟨i, rfl⟩ := Nat.exists_eq_add_of_le (show before.length + 1 ≤ k by omega)
        exact h.left i (by omega) ((lineAt_right_iff i).1 hline)
      · obtain rfl : k = before.length := by omega
        exact not_lineAt_cut hcut hline

/-- A run does not go over a comment that is no documentation line. -/
theorem IsRun.apart {start stop : Nat} (h : IsRun (before ++ cut :: after) start stop) :
    stop ≤ before.length ∨ before.length + 1 ≤ start := by
  by_contra hover
  exact not_lineAt_cut hcut (h.lineAt before.length (by omega) (by omega))

end

/-- The block of the comment at which the others are cut apart, if it is a block. -/
def cutGroups (k : Nat) (cut : Text) : List Group :=
  if IsBlock cut then [⟨k, k + 1, blockBody cut⟩] else []

theorem cutGroups_places (k : Nat) (cut : Text) :
    (cutGroups k cut).Pairwise (fun first second => first.stop ≤ second.start) ∧
      ∀ group ∈ cutGroups k cut, group.start = k ∧ group.stop = k + 1 := by
  rw [cutGroups]
  split
  · exact ⟨List.pairwise_singleton _ _, List.forall_mem_singleton.2 ⟨rfl, rfl⟩⟩
  · exact ⟨.nil, by simp⟩

theorem take_drop_right (start stop : Nat) :
    (((before ++ cut :: after).take (before.length + 1 + stop)).drop
      (before.length + 1 + start)) = (after.take stop).drop start := by
  have hlength : (before ++ [cut]).length = before.length + 1 := by simp
  have hsplit : before ++ cut :: after = (before ++ [cut]) ++ after := by simp
  rw [hsplit, ← hlength, List.take_length_add_append, List.drop_length_add_append]

theorem isGroup_cut_iff (hcut : ¬IsLine cut) {group : Group} :
    IsGroup (before ++ cut :: after) group ↔
      IsGroup before group ∨ group ∈ cutGroups before.length cut ∨
        ∃ inner, IsGroup after inner ∧ inner.shift (before.length + 1) = group := by
  constructor
  · intro h
    cases h with
    | @run start stop hrun =>
        rcases hrun.apart hcut with hstop | hstart
        · rw [List.take_append_of_le_length hstop]
          exact .inl (.run ((isRun_left_iff hcut hstop).1 hrun))
        · have hlt := hrun.start_lt_stop
          obtain ⟨i, rfl⟩ := Nat.exists_eq_add_of_le hstart
          obtain ⟨j, rfl⟩ := Nat.exists_eq_add_of_le (show before.length + 1 ≤ stop by omega)
          rw [take_drop_right]
          exact .inr (.inr ⟨_, .run ((isRun_right_iff hcut).1 hrun), rfl⟩)
    | @block k comment hget hblock =>
        rcases Nat.lt_trichotomy k before.length with hlt | rfl | hgt
        · rw [getElem?_left hlt] at hget
          exact .inl (.block hget hblock)
        · rw [getElem?_cut] at hget
          cases hget
          exact .inr (.inl (by simp [cutGroups, hblock]))
        · obtain ⟨i, rfl⟩ := Nat.exists_eq_add_of_le (show before.length + 1 ≤ k by omega)
          rw [getElem?_right] at hget
          exact .inr (.inr ⟨_, .block hget hblock, rfl⟩)
  · rintro (h | h | ⟨inner, h, rfl⟩)
    · cases h with
      | @run start stop hrun =>
          have hstop := hrun.stop_le_length
          have htake : (before ++ cut :: after).take stop = before.take stop :=
            List.take_append_of_le_length hstop
          rw [← htake]
          exact .run ((isRun_left_iff hcut hstop).2 hrun)
      | block hget hblock =>
          have hlt := (List.getElem?_eq_some_iff.1 hget).1
          exact .block ((getElem?_left hlt).trans hget) hblock
    · rw [cutGroups] at h
      split at h
      · next hblock =>
          obtain rfl := List.mem_singleton.1 h
          exact .block getElem?_cut hblock
      · cases h
    · cases h with
      | @run start stop hrun =>
          have hwhole : IsRun (before ++ cut :: after) (before.length + 1 + start)
              (before.length + 1 + stop) := (isRun_right_iff hcut).2 hrun
          have hgroup := IsGroup.run hwhole
          rw [take_drop_right] at hgroup
          exact hgroup
      | @block k comment hget hblock =>
          exact .block ((getElem?_right k).trans hget) hblock

end

/-! ## All blocks -/

/-- What holds of documentation lines, and of comments cut apart at another comment if it
holds on both sides, holds of all comments. -/
@[elab_as_elim]
theorem cut_induction {motive : List Text → Prop}
    (lines : ∀ comments, (∀ comment ∈ comments, IsLine comment) → motive comments)
    (cut : ∀ before cut after, ¬IsLine cut → motive before → motive after →
      motive (before ++ cut :: after))
    (comments : List Text) : motive comments := by
  induction hlength : comments.length using Nat.strongRecOn generalizing comments with
  | ind length ih =>
      by_cases hlines : ∀ comment ∈ comments, IsLine comment
      · exact lines comments hlines
      · simp only [not_forall] at hlines
        obtain ⟨other, hmem, hother⟩ := hlines
        obtain ⟨before, after, rfl⟩ := List.append_of_mem hmem
        simp only [List.length_append, List.length_cons] at hlength
        apply cut before other after hother
        · exact ih before.length (by omega) before rfl
        · exact ih after.length (by omega) after rfl

theorem isGroup_lines_iff {comments : List Text} (h : ∀ comment ∈ comments, IsLine comment)
    {group : Group} :
    IsGroup comments group ↔
      comments ≠ [] ∧ group = ⟨0, comments.length, unlines (comments.map (List.drop 3))⟩ := by
  have hline : ∀ k, k < comments.length → LineAt comments k := fun k hk =>
    ⟨comments[k], List.getElem?_eq_getElem hk, h _ (List.getElem_mem hk)⟩
  constructor
  · intro hgroup
    cases hgroup with
    | @run start stop hrun =>
        have hlength := hrun.stop_le_length
        have hlt := hrun.start_lt_stop
        have hstop : stop = comments.length := by
          by_contra hne
          exact hrun.right (hline stop (by omega))
        have hstart : start = 0 := by
          by_contra hne
          exact hrun.left (start - 1) (by omega) (hline _ (by omega))
        subst hstop hstart
        exact ⟨List.ne_nil_of_length_pos hlt, by simp⟩
    | block hget hblock =>
        exact absurd (h _ (List.mem_of_getElem? hget)) (not_isLine_of_isBlock hblock)
  · rintro ⟨hne, rfl⟩
    have hrun : IsRun comments 0 comments.length := by
      refine ⟨List.length_pos_iff.2 hne, fun k _ => hline k, fun k hk => by omega, fun hend => ?_⟩
      exact Nat.lt_irrefl _ hend.lt_length
    simpa using IsGroup.run hrun

theorem groupFrom_of_lines {comments : List Text} (h : ∀ comment ∈ comments, IsLine comment) :
    groupFrom [] (comments.map Comment.ofText) = runBlock (comments.map (List.drop 3)) := by
  have hkinds : comments.map Comment.ofText = (comments.map (List.drop 3)).map .line := by
    rw [List.map_map]
    exact List.map_congr_left fun comment hmem => ofText_of_isLine (h comment hmem)
  rw [hkinds, groupFrom_lines, List.nil_append]

theorem groupFrom_cutGroups {cut : Text} (hcut : ¬IsLine cut) (k : Nat) :
    groupFrom [] [Comment.ofText cut] = (cutGroups k cut).map Group.text := by
  rw [cutGroups]
  split
  · next hblock =>
      rw [ofText_of_isBlock hblock]
      rfl
  · next hblock =>
      rw [ofText_of_plain hcut hblock]
      rfl

/-- The blocks are the texts of all groups, ordered by their places. -/
theorem exists_groups (comments : List Text) :
    ∃ groups : List Group,
      groupFrom [] (comments.map Comment.ofText) = groups.map Group.text ∧
        groups.Pairwise (fun first second => first.stop ≤ second.start) ∧
          ∀ group, group ∈ groups ↔ IsGroup comments group := by
  induction comments using cut_induction with
  | lines comments h =>
      rw [groupFrom_of_lines h]
      simp only [isGroup_lines_iff h]
      cases comments with
      | nil => exact ⟨[], rfl, .nil, by simp⟩
      | cons comment comments =>
          refine ⟨[⟨0, (comment :: comments).length,
            unlines ((comment :: comments).map (List.drop 3))⟩], rfl,
            List.pairwise_singleton _ _, ?_⟩
          simp
  | cut before cut after hcut ihbefore ihafter =>
      obtain ⟨front, hfront, hsorted, hmem⟩ := ihbefore
      obtain ⟨back, hback, hsorted', hmem'⟩ := ihafter
      refine ⟨front ++ cutGroups before.length cut ++
        back.map (Group.shift (before.length + 1)), ?_, ?_, ?_⟩
      · rw [List.map_append, List.map_cons, groupFrom_cut (ofText_ne_line hcut), hfront, hback,
          groupFrom_cutGroups hcut before.length]
        simp [Group.shift, Function.comp_def]
      · have hends : ∀ group ∈ front, group.stop ≤ before.length := fun group hgroup =>
          ((hmem group).1 hgroup).bounds.2
        have hshifted : ∀ group ∈ back.map (Group.shift (before.length + 1)),
            before.length + 1 ≤ group.start := by
          intro group hgroup
          obtain ⟨inner, -, rfl⟩ := List.mem_map.1 hgroup
          exact Nat.le_add_right _ _
        have hmiddle := cutGroups_places before.length cut
        rw [List.append_assoc, List.pairwise_append, List.pairwise_append, List.pairwise_map]
        refine ⟨hsorted, ⟨hmiddle.1, ?_, ?_⟩, ?_⟩
        · exact hsorted'.imp fun h => Nat.add_le_add_left h _
        · intro first hfirst second hsecond
          have hstart := hshifted second hsecond
          have hplace := hmiddle.2 first hfirst
          omega
        · intro first hfirst second hsecond
          have hend := hends first hfirst
          rcases List.mem_append.1 hsecond with hsecond | hsecond
          · have hplace := hmiddle.2 second hsecond
            omega
          · have hstart := hshifted second hsecond
            omega
      · intro group
        simp only [List.mem_append, List.mem_map, hmem, hmem', isGroup_cut_iff hcut, or_assoc]

/-! ## Comments of a block -/

section

variable {comments : List Text} {k : Nat}

theorem exists_isGroup_of_lineAt (h : LineAt comments k) :
    ∃ group, IsGroup comments group ∧ group.Covers k := by
  induction comments using cut_induction generalizing k with
  | lines comments hlines =>
      have hk := h.lt_length
      have hne : comments ≠ [] := List.ne_nil_of_length_pos (by omega)
      exact ⟨_, (isGroup_lines_iff hlines).2 ⟨hne, rfl⟩, Nat.zero_le k, hk⟩
  | cut before cut after hcut ihbefore ihafter =>
      rcases Nat.lt_trichotomy k before.length with hlt | rfl | hgt
      · obtain ⟨group, hgroup, hcovers⟩ := ihbefore ((lineAt_left_iff hlt).1 h)
        exact ⟨group, (isGroup_cut_iff hcut).2 (.inl hgroup), hcovers⟩
      · exact absurd h (not_lineAt_cut hcut)
      · obtain ⟨i, rfl⟩ := Nat.exists_eq_add_of_le (show before.length + 1 ≤ k by omega)
        obtain ⟨group, hgroup, hlow, hhigh⟩ := ihafter ((lineAt_right_iff i).1 h)
        refine ⟨_, (isGroup_cut_iff hcut).2 (.inr (.inr ⟨group, hgroup, rfl⟩)), ?_, ?_⟩
        · exact Nat.add_le_add_left hlow _
        · exact Nat.add_lt_add_left hhigh _

theorem exists_isGroup (h : LineAt comments k ∨ BlockAt comments k) :
    ∃ group, IsGroup comments group ∧ group.Covers k := by
  rcases h with hline | ⟨comment, hget, hblock⟩
  · exact exists_isGroup_of_lineAt hline
  · exact ⟨_, .block hget hblock, Nat.le_refl k, Nat.lt_succ_self k⟩

/-- A group with a documentation line in it is a run. -/
theorem IsGroup.isRun {group : Group} (h : IsGroup comments group) (hcovers : group.Covers k)
    (hline : LineAt comments k) : IsRun comments group.start group.stop := by
  cases h with
  | run hrun => exact hrun
  | @block place comment hget hblock =>
      obtain ⟨hlow, hhigh⟩ : place ≤ k ∧ k < place + 1 := hcovers
      obtain rfl : k = place := by omega
      obtain ⟨other, hother, hisLine⟩ := hline
      cases hget.symm.trans hother
      exact absurd hisLine (not_isLine_of_isBlock hblock)

/-- Two documentation lines are in one group exactly if nothing but documentation lines
stands between them. -/
theorem exists_isGroup_covers_iff {k' : Nat} (hk : LineAt comments k) (hle : k ≤ k') :
    (∃ group, IsGroup comments group ∧ group.Covers k ∧ group.Covers k') ↔
      ∀ m, k ≤ m → m ≤ k' → LineAt comments m := by
  constructor
  · rintro ⟨group, hgroup, hcovers, hcovers'⟩ m hlow hhigh
    have hrun := hgroup.isRun hcovers hk
    exact hrun.lineAt m (Nat.le_trans hcovers.1 hlow) (Nat.lt_of_le_of_lt hhigh hcovers'.2)
  · intro hlines
    obtain ⟨group, hgroup, hcovers⟩ := exists_isGroup_of_lineAt hk
    have hrun := hgroup.isRun hcovers hk
    refine ⟨group, hgroup, hcovers, Nat.le_trans hcovers.1 hle, ?_⟩
    by_contra hend
    -- Otherwise the run would end at a documentation line.
    exact hrun.right (hlines group.stop (Nat.le_of_lt hcovers.2) (by omega))

theorem eq_of_covers {groups : List Group}
    (h : groups.Pairwise fun first second => first.stop ≤ second.start) {group group' : Group}
    (hgroup : group ∈ groups) (hgroup' : group' ∈ groups) (hk : group.Covers k)
    (hk' : group'.Covers k) : group = group' := by
  by_contra hne
  have happart : groups.Pairwise Group.Apart := h.imp .inl
  have hplaces := happart.forall hgroup hgroup' hne
  obtain ⟨hlow, hhigh⟩ := hk
  obtain ⟨hlow', hhigh'⟩ := hk'
  rcases hplaces with hplaces | hplaces <;> omega

end

/-- The blocks in front of a site have places in order, and these are the places of the
maximal runs of documentation lines and of the block comments, nothing else.  Every
documentation comment is in one of them, lines are in the same one exactly if no other
comment stands between them, and any other comment cuts the blocks apart. -/
theorem blocks_grouped {source : Bytes} {site : Site} {texts : List Text}
    (h : site.PrecededBy source texts) :
    ∃ groups : List Group, site.blocks? source = some (groups.map Group.text) ∧
      groups.Pairwise (fun first second => first.stop ≤ second.start) ∧
      (∀ group, group ∈ groups ↔ IsGroup (texts.map strip) group) ∧
      (∀ k, LineAt (texts.map strip) k ∨ BlockAt (texts.map strip) k →
        ∃! group, group ∈ groups ∧ group.Covers k) ∧
      (∀ k k', LineAt (texts.map strip) k → LineAt (texts.map strip) k' → k ≤ k' →
        ((∃ group ∈ groups, group.Covers k ∧ group.Covers k') ↔
          ∀ m, k ≤ m → m ≤ k' → LineAt (texts.map strip) m)) ∧
      ∀ before cut after, texts = before ++ cut :: after → ¬IsLine (strip cut) →
        groups.map Group.text = blocks before ++ blocks [cut] ++ blocks after := by
  obtain ⟨groups, htexts, hsorted, hmem⟩ := exists_groups (texts.map strip)
  have hblocks : blocks texts = groups.map Group.text := by
    rw [← htexts, List.map_map]
    rfl
  refine ⟨groups, ?_, hsorted, hmem, ?_, ?_, ?_⟩
  · rw [Site.blocks?_of_precededBy h, hblocks]
  · intro k hk
    obtain ⟨group, hgroup, hcovers⟩ := exists_isGroup hk
    refine ⟨group, ⟨(hmem group).2 hgroup, hcovers⟩, ?_⟩
    rintro other ⟨hother, hcovers'⟩
    exact eq_of_covers hsorted hother ((hmem group).2 hgroup) hcovers' hcovers
  · intro k k' hk _ hle
    simp only [hmem]
    exact exists_isGroup_covers_iff hk hle
  · rintro before cut after rfl hcut
    rw [← hblocks, blocks_cut hcut]

def Sample.comments : List Text := ["///a", "///b ", "////", "/**c*/", "///d"]

theorem blocks_grouped_sample :
    ∃ groups : List Group,
      (Sample.site [(0, 4), (5, 10), (11, 15), (16, 22), (23, 27)]).blocks?
          (Utf8.encode (unlines Sample.comments)) = some (groups.map Group.text) ∧
        groups.map Group.text = [("a\nb" : Text), "c", "d"] ∧
        (∃! group, group ∈ groups ∧ group.Covers 3) ∧
        (∃ group ∈ groups, group.Covers 0 ∧ group.Covers 1) ∧
        ¬∃ group ∈ groups, group.Covers 1 ∧ group.Covers 4 := by
  have hcomments : (Sample.site [(0, 4), (5, 10), (11, 15), (16, 22), (23, 27)]).comments?
      (Utf8.encode (unlines Sample.comments)) = some Sample.comments := by decide +kernel
  have hvalue : (Sample.site [(0, 4), (5, 10), (11, 15), (16, 22), (23, 27)]).blocks?
      (Utf8.encode (unlines Sample.comments)) = some [("a\nb" : Text), "c", "d"] := by
    decide +kernel
  have hline : ∀ k ∈ [0, 1, 4], LineAt (Sample.comments.map strip) k := by decide +kernel
  have hother : ¬LineAt (Sample.comments.map strip) 3 := by decide +kernel
  have hblock : BlockAt (Sample.comments.map strip) 3 := by decide +kernel
  obtain ⟨groups, hblocks, -, -, hdoc, hshare, -⟩ :=
    blocks_grouped (Site.comments?_eq_some_iff.1 hcomments)
  refine ⟨groups, hblocks, Option.some.inj (hblocks.symm.trans hvalue), hdoc 3 (.inr hblock),
    ?_, ?_⟩
  · refine (hshare 0 1 (hline 0 (by decide)) (hline 1 (by decide)) (by decide)).2 ?_
    intro m _ hm
    exact hline m (by simp only [List.mem_cons]; omega)
  · intro hshared
    exact hother ((hshare 1 4 (hline 1 (by decide)) (hline 4 (by decide)) (by decide)).1
      hshared 3 (by decide) (by decide))

end ClassWiki.Doc
