import ClassWiki.Tree.Walk

/-!
# Positions in a tree

A position names a site below another one by the numbers of the children on the way down.
Positions in lexicographic order are in source order, and a position is a lead of every
position that it contains.  What a walk meets below a position is one piece of the whole
walk, and the pieces of two positions are apart when neither contains the other.
-/

namespace ClassWiki.Site

/-! ## Positions -/

def at? (site : Site) : List Nat → Option Site
  | [] => some site
  | i :: rest => site.children[i]?.bind fun child => child.at? rest

theorem at?_cons_eq_some_iff {site inner : Site} {i : Nat} {rest : List Nat} :
    site.at? (i :: rest) = some inner ↔
      ∃ child, site.children[i]? = some child ∧ child.at? rest = some inner := by
  rw [at?, Option.bind_eq_some_iff]

/-- The first position comes earlier in source order, and neither contains the other: an
earlier position is never contained in a later one. -/
def Precedes (first second : List Nat) : Prop := first < second ∧ ¬first <+: second

instance (first second : List Nat) : Decidable (Precedes first second) :=
  inferInstanceAs (Decidable (_ ∧ _))

theorem not_precedes_nil_left (second : List Nat) : ¬Precedes [] second :=
  fun h => h.2 List.nil_prefix

theorem not_precedes_nil_right (first : List Nat) : ¬Precedes first [] :=
  fun h => List.not_lt_nil first h.1

theorem precedes_cons_iff {i j : Nat} {first second : List Nat} :
    Precedes (i :: first) (j :: second) ↔ i < j ∨ i = j ∧ Precedes first second := by
  simp only [Precedes, List.cons_lt_cons_iff, List.cons_prefix_cons]
  constructor
  · rintro ⟨hlt | ⟨rfl, hlt⟩, hcontains⟩
    · exact .inl hlt
    · exact .inr ⟨rfl, hlt, fun h => hcontains ⟨rfl, h⟩⟩
  · rintro (hlt | ⟨rfl, hlt, hcontains⟩)
    · exact ⟨.inl hlt, fun h => by omega⟩
    · exact ⟨.inr ⟨rfl, hlt⟩, fun h => hcontains h.2⟩

/-! ## Pieces of a walk -/

section

variable (keep : Node → Bool)

theorem walk_append (first second : List Site) :
    walk keep (first ++ second) = walk keep first ++ walk keep second := by
  fun_induction walk keep first with
  | case1 => rfl
  | case2 site stack hkeep ih =>
      rw [List.append_assoc] at ih
      rw [List.cons_append, walk, if_pos hkeep, ih, List.cons_append]
  | case3 site stack hkeep ih =>
      rw [List.append_assoc] at ih
      rw [List.cons_append, walk, if_neg hkeep, ih]

/-- The site itself, as far as it is kept. -/
def own (site : Site) : List Site := if keep site.node then [site] else []

theorem walk_cons (site : Site) (stack : List Site) :
    walk keep (site :: stack) = own keep site ++ walk keep site.children ++ walk keep stack := by
  rw [walk, walk_append, own]
  split <;> simp

/-- A walk cut at one of the sites of the stack. -/
theorem walk_of_getElem? {sites : List Site} {site : Site} {i : Nat} (h : sites[i]? = some site) :
    walk keep sites = walk keep (sites.take i) ++ own keep site ++ walk keep site.children ++
      walk keep (sites.drop (i + 1)) := by
  obtain ⟨hi, rfl⟩ := List.getElem?_eq_some_iff.1 h
  calc walk keep sites
    _ = walk keep (sites.take i ++ sites[i] :: sites.drop (i + 1)) := by
        rw [List.getElem_cons_drop, List.take_append_drop]
    _ = walk keep (sites.take i) ++ own keep sites[i] ++ walk keep sites[i].children ++
          walk keep (sites.drop (i + 1)) := by
        rw [walk_append, walk_cons]
        simp only [List.append_assoc]

/-- What a walk below a site meets before it comes to what lies below the position. -/
def ahead (site : Site) : List Nat → List Site
  | [] => []
  | i :: rest =>
      walk keep (site.children.take i) ++
        match site.children[i]? with
        | none => []
        | some child => own keep child ++ child.ahead rest

theorem ahead_cons {site child : Site} {i : Nat} (h : site.children[i]? = some child)
    (rest : List Nat) :
    site.ahead keep (i :: rest) =
      walk keep (site.children.take i) ++ own keep child ++ child.ahead keep rest := by
  simp only [ahead, h, List.append_assoc]

theorem exists_walk_eq {site inner : Site} {position : List Nat}
    (h : site.at? position = some inner) :
    ∃ behind, walk keep site.children =
      site.ahead keep position ++ walk keep inner.children ++ behind := by
  induction position generalizing site with
  | nil =>
      cases h
      exact ⟨[], by simp [ahead]⟩
  | cons i rest ih =>
      obtain ⟨child, hchild, hrest⟩ := at?_cons_eq_some_iff.1 h
      obtain ⟨behind, hbelow⟩ := ih hrest
      refine ⟨behind ++ walk keep (site.children.drop (i + 1)), ?_⟩
      rw [walk_of_getElem? keep hchild, ahead_cons keep hchild, hbelow]
      simp only [List.append_assoc]

/-- What lies below a position is ahead of every position that it precedes. -/
theorem exists_ahead_eq {site inner inner' : Site} {first second : List Nat}
    (hfirst : site.at? first = some inner) (hsecond : site.at? second = some inner')
    (h : Precedes first second) :
    ∃ between, site.ahead keep second =
      site.ahead keep first ++ walk keep inner.children ++ between := by
  induction first generalizing site second with
  | nil => exact absurd h (not_precedes_nil_left second)
  | cons i first ih =>
      cases second with
      | nil => exact absurd h (not_precedes_nil_right _)
      | cons j second =>
          obtain ⟨child, hchild, hbelow⟩ := at?_cons_eq_some_iff.1 hfirst
          obtain ⟨child', hchild', hbelow'⟩ := at?_cons_eq_some_iff.1 hsecond
          rw [ahead_cons keep hchild, ahead_cons keep hchild']
          rcases precedes_cons_iff.1 h with hlt | ⟨rfl, hinside⟩
          · -- The child of the first position is among those in front of the second child.
            have htaken : (site.children.take j)[i]? = some child := by
              rw [List.getElem?_take_of_lt hlt, hchild]
            obtain ⟨behind, hwalk⟩ := exists_walk_eq keep hbelow
            refine ⟨behind ++ walk keep ((site.children.take j).drop (i + 1)) ++
              own keep child' ++ child'.ahead keep second, ?_⟩
            rw [walk_of_getElem? keep htaken, hwalk, List.take_take,
              Nat.min_eq_left (Nat.le_of_lt hlt)]
            simp only [List.append_assoc]
          · cases hchild.symm.trans hchild'
            obtain ⟨between, hahead⟩ := ih hbelow hbelow' hinside
            refine ⟨between, ?_⟩
            rw [hahead]
            simp only [List.append_assoc]

end

end ClassWiki.Site
