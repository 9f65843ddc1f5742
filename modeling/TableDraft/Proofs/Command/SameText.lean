import TableDraft.Command.Run
import TableDraft.Proofs.Definition.Reread
import TableDraft.Proofs.Plan.NoChanges

namespace TableDraft

namespace Command

/-- Every column in the text of a definition is written with its id. -/
def givesIds (text : String) : Bool :=
  (Json.document? text).all Definition.givesIds

theorem definitionOf_again {ids : IdSupply} {text : String} {d : Definition}
    (h : (definitionOf ids text).1 = .good d) (ids' : IdSupply) :
    ∃ columns, (definitionOf ids' text).1 = .good { d with columns } ∧
      (givesIds text = true → columns = d.columns) ∧
      (givesIds text = false → ∃ c ∈ columns, ids'.Gives c.id) := by
  unfold definitionOf givesIds at *
  cases hv : Json.document? text with
  | none =>
    rw [hv] at h
    cases h
  | some v =>
    rw [hv] at h
    exact Definition.check_again h ids'

/-- A good text is good again, whatever ids are left by then. The plan from the one reading to the
other has no statements if the columns are written with ids that tell them apart, and, unless the ids
of the second reading meet those of the first, only then. -/
theorem compile_sameText (database table : String) {ids : IdSupply} {text : String}
    {d : Definition} (h : (definitionOf ids text).1 = .good d) (ids' : IdSupply) :
    ∃ d', (definitionOf ids' text).1 = .good d' ∧
      (givesIds text = true → d.IdsAgree →
        (Plan.compile database table d d').statements = []) ∧
      ((∀ id, ids'.Gives id → id ∉ d.columnIds) →
        (Plan.compile database table d d').statements = [] →
        givesIds text = true ∧ d.IdsAgree) := by
  obtain ⟨columns, hagain, hsame, hnew⟩ := definitionOf_again h ids'
  refine ⟨_, hagain, fun hids hagree => ?_, fun hfresh hnone => ?_⟩
  · rw [hsame hids, Plan.statements_eq_nil_iff]
    exact Definition.agreesWith_self_iff.2 hagree
  · rw [Plan.statements_eq_nil_iff] at hnone
    cases hids : givesIds text with
    | false =>
      obtain ⟨c, hc, hgiven⟩ := hnew hids
      exact absurd ((hnone.ids c.id).2 (List.mem_map_of_mem hc)) (hfresh c.id hgiven)
    | true =>
      rw [hsame hids] at hnone
      exact ⟨rfl, Definition.agreesWith_self_iff.1 hnone⟩

/-- Two columns share an id, and differ only in what no statement is about. -/
theorem compile_sameText_shared_id :
    let text := "\x7b\"columns\":[\x7b\"id\":1,\"name\":\"a\",\"data_type\":\"int\"," ++
      "\"length\":\"5 \"\x7d,\x7b\"id\":true,\"name\":\"a\",\"data_type\":\"int\",\"length\":5\x7d]\x7d"
    let a : Column :=
      ⟨.number 1, "a", some "a", "int", some (.number 5), none, true, false, false, false⟩
    let d : Definition := ⟨[{ a with length := some (.word "5 ") }, a], [], [], []⟩
    let ids : IdSupply := ⟨fun n => "gen" ++ toString n, 0⟩
    (definitionOf ids text).1 = .good d ∧
      ∃ d', (definitionOf ids text).1 = .good d' ∧
        (givesIds text = true → d.IdsAgree → (Plan.compile "shop" "t" d d').statements = []) ∧
        ((∀ id, ids.Gives id → id ∉ d.columnIds) →
          (Plan.compile "shop" "t" d d').statements = [] → givesIds text = true ∧ d.IdsAgree) ∧
        givesIds text = true ∧ d.IdsAgree := by
  intro text a d ids
  have hread : (definitionOf ids text).1 = .good d ∧ givesIds text = true := by
    decide +kernel
  obtain ⟨d', hagain, hnone, honly⟩ := compile_sameText "shop" "t" hread.1 ids
  exact ⟨hread.1, d', hagain, hnone, honly, hread.2, by decide⟩

/-- Read twice, a column written without an id is dropped and added; and of two columns that share an
id but differ, the first is taken for the second one changed. -/
theorem compile_sameText_other_ids :
    let statements (text : String) : List String :=
      let (first, ids) := definitionOf ⟨fun n => "gen" ++ toString n, 0⟩ text
      match first, (definitionOf ids text).1 with
      | .good d, .good d' => (Plan.compile "shop" "t" d d').statements
      | _, _ => []
    statements "\x7b\"columns\":[\x7b\"name\":\"a\",\"data_type\":\"INT\"\x7d]\x7d" =
        ["ALTER TABLE `t` ADD COLUMN `a` INT NULL;", "ALTER TABLE `t` DROP COLUMN `a`;"] ∧
      statements ("\x7b\"columns\":[\x7b\"id\":1,\"name\":\"a\",\"data_type\":\"INT\"\x7d," ++
          "\x7b\"id\":1,\"name\":\"b\",\"data_type\":\"INT\"\x7d]\x7d") =
        ["ALTER TABLE `t` CHANGE COLUMN `b` `a` INT NULL;"] := by
  decide +kernel

end Command

end TableDraft
