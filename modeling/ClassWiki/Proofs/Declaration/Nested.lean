import ClassWiki.Proofs.Declaration.Locality
import ClassWiki.Proofs.Tree.Position

/-!
# Members of nested declarations

The members of a site are read at the sites of one kind below it, in the order of the walk.
So the members of a site further down stand among them as one block, and blocks of sites
that do not contain each other follow one another in source order.
-/

namespace ClassWiki

variable {α β : Type}

/-! ## Blocks of members -/

/-- The list of every site below stands in the members from a place of its own on, and the
places are in source order. -/
structure Placed (list? : Site → Option (List α)) (site : Site) (members : List α)
    (start : List Nat → Nat) : Prop where
  block : ∀ position inner, site.at? position = some inner →
    ∃ before block after, list? inner = some block ∧ members = before ++ block ++ after ∧
      before.length = start position
  order : ∀ first second inner inner', site.at? first = some inner →
    site.at? second = some inner' → Site.Precedes first second →
    ∀ block, list? inner = some block → start first + block.length ≤ start second

def Nests (list? : Site → Option (List α)) (site : Site) : Prop :=
  ∀ members, list? site = some members → ∃ start, Placed list? site members start

/-! ## Gathering -/

/-- What is read at the sites, put together from left to right. -/
def gather? (read? : Site → Option β) (together : List β → List α) (sites : List Site) :
    Option (List α) :=
  (sites.mapM read?).map together

section

variable {read? : Site → Option β} {together : List β → List α}
  (htogether : ∀ first second, together (first ++ second) = together first ++ together second)

include htogether

theorem gather?_append_eq_some_iff {first second : List Site} {members : List α} :
    gather? read? together (first ++ second) = some members ↔
      ∃ before after, gather? read? together first = some before ∧
        gather? read? together second = some after ∧ members = before ++ after := by
  rw [gather?, gather?, gather?, List.mapM_append]
  cases first.mapM read? with
  | none => simp
  | some before => cases second.mapM read? <;> simp [htogether, eq_comm]

theorem nests_gather? (keep : Node → Bool) (site : Site) :
    Nests (fun site => gather? read? together (Site.walk keep site.children)) site := by
  intro members hmembers
  have hahead : ∀ position inner, site.at? position = some inner →
      ∃ before block after, gather? read? together (site.ahead keep position) = some before ∧
        gather? read? together (Site.walk keep inner.children) = some block ∧
        members = before ++ block ++ after := by
    intro position inner hinner
    obtain ⟨behind, hwalk⟩ := Site.exists_walk_eq keep hinner
    have hwhole : gather? read? together (site.ahead keep position ++
        Site.walk keep inner.children ++ behind) = some members := hwalk ▸ hmembers
    obtain ⟨lead, after, hlead, -, rfl⟩ := (gather?_append_eq_some_iff htogether).1 hwhole
    obtain ⟨before, block, hbefore, hblock, rfl⟩ :=
      (gather?_append_eq_some_iff htogether).1 hlead
    exact ⟨before, block, after, hbefore, hblock, rfl⟩
  refine ⟨fun position =>
    ((gather? read? together (site.ahead keep position)).getD []).length, ?_, ?_⟩
  · intro position inner hinner
    obtain ⟨before, block, after, hbefore, hblock, hsplit⟩ := hahead position inner hinner
    exact ⟨before, block, after, hblock, hsplit, by rw [hbefore]; rfl⟩
  · intro first second inner inner' hfirst hsecond hprecedes block hblock
    obtain ⟨lead, -, -, hlead, -, -⟩ := hahead second inner' hsecond
    obtain ⟨between, hsplit⟩ := Site.exists_ahead_eq keep hfirst hsecond hprecedes
    have hparts := hlead
    rw [hsplit] at hparts
    obtain ⟨upTo, rest, hupTo, -, rfl⟩ := (gather?_append_eq_some_iff htogether).1 hparts
    obtain ⟨before, block', hbefore, hblock', rfl⟩ :=
      (gather?_append_eq_some_iff htogether).1 hupTo
    cases hblock.symm.trans hblock'
    rw [hbefore, hlead]
    simp

end

/-! ## Fields, properties and methods -/

theorem Variable.nests_fields? (source : Bytes) (site : Site) : Nests (fields? source) site := by
  have hfields : fields? source = fun site =>
      gather? (ofField? source) (List.filterMap id) (site.descendants ["field_declaration"]) := by
    funext site
    rw [fields?, gather?]
    cases (site.descendants ["field_declaration"]).mapM (ofField? source) <;> rfl
  rw [hfields]
  exact nests_gather? (fun _ _ => List.filterMap_append) _ site

/-- A list with one entry for every site of a kind. -/
theorem nests_mapM (read? : Site → Option α) (kinds : List Text) (site : Site) :
    Nests (fun site => (site.descendants kinds).mapM read?) site := by
  have hmapM : (fun site : Site => (site.descendants kinds).mapM read?) = fun site =>
      gather? read? id (site.descendants kinds) := by
    funext site
    rw [gather?, Option.map_id]
    rfl
  rw [hmapM]
  exact nests_gather? (fun _ _ => rfl) _ site

/-- The members of every site below a site stand in its lists as blocks, those of an earlier
site in front of those of a later one that it does not contain.  There are such lists as soon
as the texts below the site can be read. -/
theorem members_nest (source : Bytes) (site : Site) :
    Nests (Variable.fields? source) site ∧ Nests (Variable.properties? source) site ∧
      Nests (Method.all? source) site ∧
      (site.node.ReadableBelow source →
        (∃ fields, Variable.fields? source site = some fields) ∧
          (∃ properties, Variable.properties? source site = some properties) ∧
            ∃ methods, Method.all? source site = some methods) := by
  refine ⟨Variable.nests_fields? source site,
    nests_mapM (Variable.ofProperty? source) ["property_declaration"] site,
    nests_mapM (Method.ofSite? source) ["method_declaration"] site, fun hreadable => ?_⟩
  exact ⟨Variable.exists_fields? hreadable, Variable.exists_properties? hreadable,
    Method.exists_all? hreadable⟩

namespace Sample

def twoClasses : Bytes := Utf8.encode "class A:B\x7bint f;\x7dclass C:D\x7bint g;\x7d"

/-- A site with a class at each of its two positions. -/
def aroundClasses : Site :=
  .root ⟨"declaration_list", true, none, 0, 34,
    [Declaration.Sample.classNode 0, Declaration.Sample.classNode 17]⟩

end Sample

theorem members_nest_sample :
    Variable.fields? Sample.twoClasses Sample.aroundClasses =
        some [⟨"f", "int", []⟩, ⟨"g", "int", []⟩] ∧
      ∃ start, Placed (Variable.fields? Sample.twoClasses) Sample.aroundClasses
        [⟨"f", "int", []⟩, ⟨"g", "int", []⟩] start ∧ start [0] + 1 ≤ start [1] := by
  have hfields : Variable.fields? Sample.twoClasses Sample.aroundClasses =
      some [⟨"f", "int", []⟩, ⟨"g", "int", []⟩] := by decide +kernel
  have hfirst : (Sample.aroundClasses.at? [0]).bind (Variable.fields? Sample.twoClasses) =
      some [⟨"f", "int", []⟩] := by decide +kernel
  obtain ⟨start, hplaced⟩ := (members_nest Sample.twoClasses Sample.aroundClasses).1 _ hfields
  obtain ⟨inner, hinner, hblock⟩ := Option.bind_eq_some_iff.1 hfirst
  have hprecedes : Site.Precedes [0] [1] := by decide
  exact ⟨hfields, start, hplaced, hplaced.order _ _ _ _ hinner rfl hprecedes _ hblock⟩

end ClassWiki
