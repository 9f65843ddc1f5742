import TableDraft.Proofs.Catalog.Rows
import TableDraft.Proofs.Sql.Arguments

namespace TableDraft.Catalog
open TableDraft.Sql TableDraft.Text

variable {s : Server} {ids ids' : IdSupply} {database table : String} {t : Traffic}
  {d : Definition} {rows : List Value} {n : Nat} {row : Fields} {name : String}

theorem exists_rename (hids : Function.Injective ids.name)
    (hload : (load s ids database table t).1 = .ok (d, ids')) (hrows : s.rows .columns = .ok rows)
    (hrow : rows[n]? = some (.object row)) (hname : trimmed name ≠ "")
    (hfree : ∀ c ∈ d.columns, c.name ≠ trimmed name) :
    ∃ c, d.columns[n]? = some c ∧ ReadFrom row c ∧
      let renamed := c.renamed (trimmed name)
      let result :=
        (Draft.start database table d).apply ids' (.renameColumn c.id.value (.text name))
      result.1 = .ok (.column renamed) ∧
        result.2.1.plan.statements = [ColumnChange.changeText table ⟨c, renamed⟩] := by
  obtain ⟨c, hc, hread⟩ := exists_column_of_load hload hrows hrow
  have hmem : c ∈ d.columns := List.mem_of_getElem? hc
  have hdistinct := nodup_columnIds_of_load hids hload
  refine ⟨c, hc, hread, ?_, ?_⟩
  · rw [Draft.apply_rename hdistinct hmem hread.known hname hfree]
  · exact Draft.statements_rename hdistinct (knownByName_of_load hload) hmem hname hfree _ _ _

/-- A server with one column. -/
def oneColumn (row : Fields) : Server where
  rows
    | .columns => .ok [.object row]
    | _ => .ok []
  answers := []
  version := .ok "8.0"

namespace ReadFrom

variable {c : Column} {dataType columnType : String}

/-- The type is taken whole, or in capitals with the reported length. -/
theorem type_cases (h : ReadFrom row c) (hdata : row.get? "data_type" = some (.text dataType))
    (hcolumn : row.get? "column_type" = some (.text columnType)) :
    if needsFullType dataType columnType then c.dataType = fullType columnType ∧ c.length = none
    else c.dataType = uppered dataType ∧
      checkOptional Mark.check (reportedLength row) = .good c.length := by
  obtain ⟨v, hv, htype, hlength⟩ := h.type
  cases hdata.symm.trans hv
  rw [typeOfRow_eq hcolumn] at htype hlength
  cases hfull : needsFullType dataType columnType with
  | true =>
    rw [Value.display, hfull] at htype hlength
    exact ⟨htype, (Checked.good.inj hlength).symm⟩
  | false =>
    rw [Value.display, hfull] at htype hlength
    exact ⟨htype, hlength⟩

theorem argumentList?_of_full (h : ReadFrom row c)
    (hdata : row.get? "data_type" = some (.text dataType))
    (hcolumn : row.get? "column_type" = some (.text columnType)) {args : List Char}
    (hargs : argumentList? columnType.toList = some args)
    (hfull : needsFullType dataType columnType = true) :
    argumentList? (Sql.columnType c).toList = some args := by
  have hcases := h.type_cases hdata hcolumn
  rw [if_pos hfull] at hcases
  obtain ⟨htype, hlength⟩ := hcases
  apply argumentList?_columnType hlength
  rw [htype]
  exact argumentList?_fullType hargs

theorem argumentList?_of_length (h : ReadFrom row c)
    (hdata : row.get? "data_type" = some (.text dataType))
    (hcolumn : row.get? "column_type" = some (.text columnType)) (hplain : '(' ∉ dataType.toList)
    (hfull : needsFullType dataType columnType = false) {k : Int}
    (hk : reportedLength row = .int k) :
    argumentList? (Sql.columnType c).toList = some (toString k).toList := by
  have hcases := h.type_cases hdata hcolumn
  rw [if_neg (Bool.eq_false_iff.1 hfull), hk] at hcases
  obtain ⟨htype, hlength⟩ := hcases
  refine argumentList?_columnType_length (Checked.good.inj hlength).symm fun hopen => hplain ?_
  rw [htype, toList_uppered] at hopen
  exact mem_of_mem_upper hopen (by decide)

end ReadFrom

/-- A rename writes the list of arguments that the type of the row has, if the type is taken whole or
its list is the reported length, and otherwise the reported length. -/
theorem rename_keeps_arguments (hids : Function.Injective ids.name)
    (hload : (load s ids database table t).1 = .ok (d, ids')) (hrows : s.rows .columns = .ok rows)
    (hrow : rows[n]? = some (.object row)) (hname : trimmed name ≠ "")
    (hfree : ∀ c ∈ d.columns, c.name ≠ trimmed name) {dataType columnType : String}
    (hdata : row.get? "data_type" = some (.text dataType))
    (hcolumn : row.get? "column_type" = some (.text columnType)) (hplain : '(' ∉ dataType.toList)
    {args : List Char} (hargs : argumentList? columnType.toList = some args) :
    ∃ c, d.columns[n]? = some c ∧
      let renamed := c.renamed (trimmed name)
      let result :=
        (Draft.start database table d).apply ids' (.renameColumn c.id.value (.text name))
      let written := argumentList? (Sql.columnType renamed).toList
      result.1 = .ok (.column renamed) ∧
        result.2.1.plan.statements = [ColumnChange.changeText table ⟨c, renamed⟩] ∧
        ((needsFullType dataType columnType = true ∨
          ∃ k : Int, reportedLength row = .int k ∧ (toString k).toList = args) →
            written = some args) ∧
        (needsFullType dataType columnType = false →
          ∀ k : Int, reportedLength row = .int k → written = some (toString k).toList) := by
  obtain ⟨c, hc, hread, hmade, hplan⟩ := exists_rename hids hload hrows hrow hname hfree
  have hlength : needsFullType dataType columnType = false → ∀ k : Int,
      reportedLength row = .int k →
        argumentList? (Sql.columnType c).toList = some (toString k).toList :=
    fun hfull k hk => hread.argumentList?_of_length hdata hcolumn hplain hfull hk
  have hkept : needsFullType dataType columnType = true ∨
      (∃ k : Int, reportedLength row = .int k ∧ (toString k).toList = args) →
        argumentList? (Sql.columnType c).toList = some args := by
    intro h
    cases hfull : needsFullType dataType columnType with
    | true => exact hread.argumentList?_of_full hdata hcolumn hargs hfull
    | false =>
      obtain ⟨k, hk, rfl⟩ := h.resolve_left (by simp [hfull])
      exact hlength hfull k hk
  -- the type of a column has nothing to do with its name
  exact ⟨c, hc, hmade, hplan, hkept, hlength⟩

/-- A column with a list of words that hold parentheses. -/
def enumRow : Fields :=
  [("name", .text "kind"), ("data_type", .text "enum"), ("column_type", .text "enum('a(','B)')"),
    ("char_length", .int 2), ("is_nullable", .text "YES")]

theorem rename_keeps_arguments_enum :
    ∃ d ids' c, (load (oneColumn enumRow) tally "shop" "items" Traffic.none).1 = .ok (d, ids') ∧
      d.columns[0]? = some c ∧
      ((Draft.start "shop" "items" d).apply ids'
        (.renameColumn c.id.value (.text " sort "))).2.1.plan.statements =
          [ColumnChange.changeText "items" ⟨c, c.renamed "sort"⟩] ∧
      argumentList? (columnType (c.renamed "sort")).toList = some "'a(','B)'".toList := by
  have hload : (load (oneColumn enumRow) tally "shop" "items" Traffic.none).1 =
      .ok (_, tally.advance) := rfl
  have hrow : [Value.object enumRow][0]? = some (.object enumRow) := rfl
  have hname : trimmed " sort " ≠ "" := by decide
  have hargs : argumentList? "enum('a(','B)')".toList = some "'a(','B)'".toList := by decide
  obtain ⟨c, hc, -, hplan, hkept, -⟩ :=
    rename_keeps_arguments injective_tally hload rfl hrow hname (by decide) rfl rfl (by decide) hargs
  have hsort : trimmed " sort " = "sort" := by decide
  rw [hsort] at hplan hkept
  exact ⟨_, _, c, hload, hc, hplan, hkept (.inl (by decide))⟩

/-- The width that a whole number is displayed with is not the number of its digits. -/
theorem rename_keeps_arguments_display_width :
    let row : Fields := [("name", .text "a"), ("data_type", .text "int"),
      ("column_type", .text "int(11)"), ("numeric_precision", .int 10), ("is_nullable", .text "YES")]
    argumentList? "int(11)".toList = some "11".toList ∧
      ∃ d ids' c, (load (oneColumn row) tally "shop" "items" Traffic.none).1 = .ok (d, ids') ∧
        d.columns[0]? = some c ∧
        ((Draft.start "shop" "items" d).apply ids'
          (.renameColumn c.id.value (.text "b"))).2.1.plan.statements =
            ["ALTER TABLE `items` CHANGE COLUMN `a` `b` INT(10) NULL;"] :=
  ⟨by decide, _, _, _, rfl, rfl, by decide +kernel⟩

namespace ReadFrom

variable {c : Column} {v : Value}

theorem defaultValue_of_some (h : ReadFrom row c) (hv : row.get? "column_default" = some v)
    (hnull : v.isNull = false) : c.defaultValue = some v.display := by
  have hcell : cellOrNull row "column_default" = v := by rw [cellOrNull, hv, Option.getD_some]
  rw [← Value.ofText?_eq_text, h.default, hcell]
  exact if_neg (Bool.eq_false_iff.1 hnull)

theorem columnDefinition_of_blank (h : ReadFrom row c)
    (hv : row.get? "column_default" = some v) (hnull : v.isNull = false)
    (hblank : trim v.display.toList = []) : (columnDefinition c).toList =
      (Sql.columnType c).toList ++ nullability c ++ incrementClause c := by
  have hnone : defaultLiteral? c.defaultValue c.nullable = none := by
    rw [h.defaultValue_of_some hv hnull, defaultLiteral?, hblank]
    rfl
  rw [toList_columnDefinition, defaultClause_of_none hnone, List.nil_append, List.append_assoc]

/-- A default that is not blank is written, and spelled out if no blanks stand around it. -/
theorem columnDefinition_of_text (h : ReadFrom row c)
    (hv : row.get? "column_default" = some v) (hnull : v.isNull = false)
    (hword : upper (trim v.display.toList) ≠ "NULL".toList) (hne : trim v.display.toList ≠ []) :
    ∃ literal, (trim v.display.toList = v.display.toList → Spells literal v.display.toList) ∧
      (columnDefinition c).toList = (Sql.columnType c).toList ++ nullability c ++
        " DEFAULT ".toList ++ literal ++ incrementClause c := by
  obtain ⟨d, hd, hspells⟩ := exists_defaultLiteral c.nullable hne hword
  rw [← h.defaultValue_of_some hv hnull] at hd
  refine ⟨d.toList, fun htrim => ?_, ?_⟩
  · rw [htrim] at hspells
    exact hspells
  · rw [toList_columnDefinition, defaultClause_of_some hd]
    simp only [List.append_assoc]

end ReadFrom

/-- A rename writes the default of the row, as it stands if it has no blanks around it, but none for
a default that is blank. -/
theorem rename_keeps_default (hids : Function.Injective ids.name)
    (hload : (load s ids database table t).1 = .ok (d, ids')) (hrows : s.rows .columns = .ok rows)
    (hrow : rows[n]? = some (.object row)) (hname : trimmed name ≠ "")
    (hfree : ∀ c ∈ d.columns, c.name ≠ trimmed name) {v : Value}
    (hv : row.get? "column_default" = some v) (hnull : v.isNull = false)
    (hword : upper (trim v.display.toList) ≠ "NULL".toList) :
    ∃ c, d.columns[n]? = some c ∧
      let renamed := c.renamed (trimmed name)
      let result :=
        (Draft.start database table d).apply ids' (.renameColumn c.id.value (.text name))
      let statement := ColumnChange.changeText table ⟨c, renamed⟩
      let definition := (columnDefinition renamed).toList
      let front := (columnType renamed).toList ++ nullability renamed
      let text := v.display.toList
      result.1 = .ok (.column renamed) ∧ result.2.1.plan.statements = [statement] ∧
        definition <:+: statement.toList ∧
        (trim text = [] → definition = front ++ incrementClause renamed) ∧
        (trim text ≠ [] → ∃ literal, (trim text = text → Spells literal text) ∧
          definition = front ++ " DEFAULT ".toList ++ literal ++ incrementClause renamed) := by
  obtain ⟨c, hc, hread, hmade, hplan⟩ := exists_rename hids hload hrows hrow hname hfree
  exact ⟨c, hc, hmade, hplan, ColumnChange.columnDefinition_isInfix_changeText table ⟨c, _⟩,
    hread.columnDefinition_of_blank hv hnull, hread.columnDefinition_of_text hv hnull hword⟩

/-- A column of short texts with this default. -/
def wordRow (default : String) : Fields :=
  [("name", .text "kind"), ("data_type", .text "varchar"), ("column_type", .text "varchar(9)"),
    ("char_length", .int 9), ("is_nullable", .text "NO"), ("column_default", .text default)]

theorem rename_keeps_default_quote :
    ∃ d ids' c literal,
      (load (oneColumn (wordRow "it\x27s")) tally "shop" "items" Traffic.none).1 = .ok (d, ids') ∧
        d.columns[0]? = some c ∧ Spells literal "it\x27s".toList ∧
        (columnDefinition (c.renamed "sort")).toList =
          "VARCHAR(9) NOT NULL DEFAULT ".toList ++ literal := by
  have hload : (load (oneColumn (wordRow "it\x27s")) tally "shop" "items" Traffic.none).1 =
      .ok (_, tally.advance) := rfl
  have hrow : [Value.object (wordRow "it\x27s")][0]? = some (.object (wordRow "it\x27s")) := rfl
  have hname : trimmed "sort" ≠ "" := by decide
  have hdefault : (wordRow "it\x27s").get? "column_default" = some (.text "it\x27s") := rfl
  obtain ⟨c, hc, -, -, -, -, htext⟩ :=
    rename_keeps_default injective_tally hload rfl hrow hname (by decide) hdefault rfl (by decide)
  obtain ⟨literal, hspells, hdefinition⟩ := htext (by decide)
  cases hc
  exact ⟨_, _, _, literal, hload, rfl, hspells (by decide),
    hdefinition.trans (List.append_nil _)⟩

/-- Defaults that are empty, that are blank, and that have blanks before a letter. -/
theorem rename_keeps_default_blanks :
    let Planned (default : String) (statement : String) : Prop :=
      ∃ d ids' c,
        (load (oneColumn (wordRow default)) tally "shop" "items" Traffic.none).1 = .ok (d, ids') ∧
          d.columns[0]? = some c ∧
          ((Draft.start "shop" "items" d).apply ids'
            (.renameColumn c.id.value (.text "b"))).2.1.plan.statements = [statement]
    let change := "ALTER TABLE `items` CHANGE COLUMN `kind` `b` VARCHAR(9) NOT NULL"
    Planned "" (change ++ ";") ∧ Planned "  " (change ++ ";") ∧
      Planned "  x" (change ++ " DEFAULT 'x';") :=
  ⟨⟨_, _, _, rfl, rfl, by decide +kernel⟩, ⟨_, _, _, rfl, rfl, by decide +kernel⟩,
    ⟨_, _, _, rfl, rfl, by decide +kernel⟩⟩

end TableDraft.Catalog
