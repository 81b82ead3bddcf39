import ClassWiki.Declaration.Member
import ClassWiki.Proofs.Traversal

/-!
# Comments in front of a site

The comments of a site are the comments that stand directly in front of it: nothing else
stands between them or behind them, and they go back as far as there are comments.
-/

namespace ClassWiki

namespace Site

/-- The comments directly in front of the site have these texts, in source order. -/
def PrecededBy (source : Bytes) (site : Site) (texts : List Text) : Prop :=
  ∃ comments others : List Node, site.before = comments.reverse ++ others ∧
    (∀ node ∈ comments, node.isComment = true) ∧
    (∀ node, others.head? = some node → node.isComment = false) ∧
    comments.map (Node.text? source) = texts.map some

theorem comments?_eq_some_iff {source : Bytes} {site : Site} {texts : List Text} :
    site.comments? source = some texts ↔ site.PrecededBy source texts := by
  rw [comments?, mapM_eq_some_iff]
  constructor
  · intro h
    refine ⟨site.commentNodes, site.before.dropWhile Node.isComment, ?_, ?_, ?_, h⟩
    · rw [commentNodes, List.reverse_reverse, List.takeWhile_append_dropWhile]
    · intro node hnode
      exact List.all_eq_true.1 List.all_takeWhile node (List.mem_reverse.1 hnode)
    · intro node hnode
      have hstop := List.head?_dropWhile_not Node.isComment site.before
      rw [hnode] at hstop
      exact hstop
  · rintro ⟨comments, others, hbefore, hcomments, hothers, htexts⟩
    have hnodes : site.commentNodes = comments := by
      rw [commentNodes, hbefore, List.takeWhile_append_of_pos
        (fun node hnode => hcomments node (List.mem_reverse.1 hnode))]
      cases others with
      | nil => simp
      | cons node others => simp [hothers node rfl]
    rw [hnodes]
    exact htexts

theorem blocks?_of_precededBy {source : Bytes} {site : Site} {texts : List Text}
    (h : site.PrecededBy source texts) : site.blocks? source = some (Doc.blocks texts) := by
  rw [blocks?, comments?_eq_some_iff.2 h]
  rfl

end Site

end ClassWiki
