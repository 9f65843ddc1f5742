import TableDraft.Statement

namespace TableDraft
open TableDraft.Sql TableDraft.Text

/-- Words that lead to a name, and the name. -/
structure Lead where
  words : String
  name : String
  deriving DecidableEq

namespace Lead

def text (l : Lead) : List Char :=
  l.words.toList ++ quotedIdent l.name.toList

end Lead

/-- The columns of an index, in parentheses that are still open at the end. -/
def Index.columnLeads : List String → List Lead
  | [] => []
  | c :: r => ⟨" (", c⟩ :: r.map (⟨", ", ·⟩)

namespace Statement

/-- How the text begins. -/
def opening : Statement → Lead
  | addColumn t _ | changeColumn t _ _ | dropColumn t _ => ⟨"ALTER TABLE ", t⟩
  | addUnique _ c => ⟨"CREATE UNIQUE INDEX ", uniqueIndexName c.name⟩
  | dropUnique _ b => ⟨"DROP INDEX ", uniqueIndexName b.sourceName⟩
  | createIndex _ i => ⟨"CREATE " ++ i.kindWord ++ "INDEX ", i.name⟩
  | dropIndex _ i => ⟨"DROP INDEX ", i.name⟩
  | addForeignKey t _ | dropForeignKey t _ => ⟨"ALTER TABLE ", t⟩
  | createTrigger _ g => ⟨"CREATE TRIGGER ", g.name⟩
  | dropTrigger g => ⟨"DROP TRIGGER IF EXISTS ", g.name⟩

/-- The further names. -/
def links : Statement → List Lead
  | addColumn _ c => [⟨" ADD COLUMN ", c.name⟩]
  | changeColumn _ b c => [⟨" CHANGE COLUMN ", b.sourceName⟩, ⟨" ", c.name⟩]
  | dropColumn _ c => [⟨" DROP COLUMN ", c.name⟩]
  | addUnique t c => [⟨" ON ", t⟩, ⟨" (", c.name⟩]
  | dropUnique t _ | dropIndex t _ => [⟨" ON ", t⟩]
  | createIndex t i => ⟨" ON ", t⟩ :: Index.columnLeads i.columns
  | addForeignKey _ k => [⟨" ADD CONSTRAINT ", k.constraintName⟩, ⟨" FOREIGN KEY (", k.columnName⟩,
      ⟨") REFERENCES ", k.referencedTable⟩, ⟨" (", k.referencedColumn⟩]
  | dropForeignKey _ k => [⟨" DROP FOREIGN KEY ", k.constraintName⟩]
  | createTrigger t g => [⟨" " ++ uppered g.timing ++ " " ++ uppered g.event ++ " ON ", t⟩]
  | dropTrigger _ => []

/-- What follows the last name. -/
def ending : Statement → String
  | addColumn _ c | changeColumn _ _ c => " " ++ columnDefinition c
  | addUnique .. | addForeignKey .. => ")"
  | createIndex _ i => if i.columns.isEmpty then " ()" else ")"
  | createTrigger _ g => " FOR EACH ROW\nBEGIN\n" ++ trimmed g.body ++ "\nEND"
  | dropColumn .. | dropUnique .. | dropIndex .. | dropForeignKey .. | dropTrigger .. => ""

end Statement

theorem Sql.toList_idents (c : String) (r : List String) :
    (idents (c :: r)).toList = quotedIdent c.toList ++ (r.map (⟨", ", ·⟩)).flatMap Lead.text := by
  induction r generalizing c with
  | nil => simp [idents]
  | cons d r ih =>
    have h : (idents (c :: d :: r)).toList =
        quotedIdent c.toList ++ ", ".toList ++ (idents (d :: r)).toList := by
      simp [idents]
    rw [h, ih]
    simp [Lead.text]

/-- The text of a statement is its names with what leads to them, and its ending. -/
theorem Statement.toList_draftText (s : Statement) : s.draftText.toList =
    s.opening.text ++ (s.links.flatMap Lead.text ++ s.ending.toList) := by
  unfold draftText opening links ending
  cases s with
  | createIndex t i =>
    cases h : i.columns with
    | nil =>
      simp only [Lead.text, Index.columnLeads, h, String.toList_append, toList_ident,
        List.flatMap_cons, List.flatMap_nil, List.append_assoc, List.append_nil]
      rfl
    | cons c r =>
      simp only [Lead.text, Index.columnLeads, h, toList_idents, String.toList_append, toList_ident,
        List.flatMap_cons, List.append_assoc, List.isEmpty_cons, Bool.false_eq_true, if_false]
  | _ =>
    simp only [Lead.text, String.toList_append, toList_ident, List.flatMap_cons, List.flatMap_nil,
      List.append_assoc, List.append_nil, String.toList_empty]

end TableDraft
