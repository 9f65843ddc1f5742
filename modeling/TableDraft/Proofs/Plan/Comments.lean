import TableDraft.Proofs.Plan.Script
import TableDraft.Proofs.Script.Content

namespace TableDraft.Plan
open TableDraft.Text TableDraft.Script

/-- The lines of the header and the notes that are no comments. -/
def strayLines (p : Plan) : List (List Char) :=
  (p.comments.flatMap fun l => lines (l.toList ++ ['\n'])).filter fun l => !isComment l

theorem strayLines_eq_nil {p : Plan} (h : ∀ l ∈ p.comments, Unbroken l.toList) :
    p.strayLines = [] := by
  refine List.filter_eq_nil_iff.2 fun k hk => ?_
  obtain ⟨l, hl, hk⟩ := List.mem_flatMap.1 hk
  obtain ⟨r, hr⟩ := comments_toList p l hl
  rw [lines_append_newline (h l hl)] at hk
  obtain rfl := List.mem_singleton.1 hk
  rw [hr, isComment_dashes]
  decide

/-- In front of the plan's statements a script keeps the stray lines. -/
theorem body_script {p : Plan} (h : p.statements ≠ []) : body p.script.toList =
    ['\n'].intercalate (p.strayLines ++
      (lines (String.intercalate "\n" p.statements).toList).filter fun l => !isComment l) := by
  have hnewline : "\n".toList = ['\n'] := rfl
  have hne : p.statements.map String.toList ≠ [] := by simpa using h
  rw [body, script_of_changes h, String.toList_intercalate, String.toList_intercalate, hnewline,
    List.map_append, lines_intercalate_append _ hne, List.filter_append, List.flatMap_map]
  rfl

theorem split_script_iff {p : Plan} (h : p.statements ≠ []) :
    Script.split p.script = Script.split (String.intercalate "\n" p.statements) ↔
      ∀ l ∈ p.strayLines, isIdle l = true := by
  unfold Script.split
  rw [body_script h, List.map_inj_right fun _ _ => String.ofList_inj.1]
  constructor
  · -- a visible character is in the statements as often as in the body
    intro hsplit l hl
    refine List.all_eq_true.2 fun c hc => ?_
    by_contra hvisible
    rw [Bool.not_eq_true, Bool.or_eq_false_iff, beq_eq_false_iff_ne] at hvisible
    obtain ⟨hblank, hsemicolon⟩ := hvisible
    have hcount := congrArg (fun ss => ss.flatten.count c) hsplit
    have hfeed : c ∉ ['\n'] := by
      rw [List.mem_singleton]
      rintro rfl
      cases hblank
    simp only [count_statementsOf hblank hsemicolon, body, count_intercalate hfeed,
      List.flatten_append, List.count_append] at hcount
    have hmem : 0 < p.strayLines.flatten.count c :=
      List.count_pos_iff.2 (List.mem_flatten.2 ⟨l, hl, hc⟩)
    omega
  · intro hstray
    exact statementsOf_intercalate_append hstray _

/-- A plan's script splits like its statements alone exactly if the names in its header and its notes
bring nothing but blanks and semicolons on lines of their own, as names without line breaks do. -/
theorem comments_unread (database table : String) (snapshot working : Definition)
    (h : (compile database table snapshot working).hasChanges = true) :
    let plan := compile database table snapshot working
    let unread := Script.split plan.script = Script.split (String.intercalate "\n" plan.statements)
    (unread ↔ ∀ l ∈ plan.strayLines, isIdle l = true) ∧
      ((∀ x ∈ database :: table :: snapshot.columns.map Column.sourceName, Unbroken x.toList) →
        unread) := by
  intro plan unread
  have hne : plan.statements ≠ [] := by simpa [hasChanges] using h
  refine ⟨split_script_iff hne, fun hnames => (split_script_iff hne).2 ?_⟩
  rw [strayLines_eq_nil (unbroken_comments_of_names hnames)]
  exact List.forall_mem_nil _

/-- The second line that the name of this table brings into the header holds no statement. -/
theorem comments_unread_blank_line :
    let snapshot : Definition := ⟨[], [⟨"i", "INDEX", false, ["a"]⟩], [], []⟩
    let plan := compile "shop" "t\n ; " snapshot ⟨[], [], [], []⟩
    plan.hasChanges = true ∧
      Script.split plan.script = Script.split (String.intercalate "\n" plan.statements) :=
  ⟨by decide, (comments_unread "shop" "t\n ; " _ _ (by decide)).1.2 (by decide)⟩

/-- The second line that the name of this database brings into the header is a statement. -/
theorem comments_unread_broken_name :
    let snapshot : Definition := ⟨[], [⟨"i", "INDEX", false, ["a"]⟩], [], []⟩
    let plan := compile "shop\nDROP TABLE users;" "t" snapshot ⟨[], [], [], []⟩
    Script.split (String.intercalate "\n" plan.statements) = ["DROP INDEX `i` ON `t`"] ∧
      Script.split plan.script =
        ["DROP TABLE users", ".t\nDROP INDEX `i` ON `t`"] := by
  decide +kernel

end TableDraft.Plan
