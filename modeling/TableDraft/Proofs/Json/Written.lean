import TableDraft.Proofs.Json.Token

namespace TableDraft.Json
open TableDraft.Number TableDraft.Text

/-- A value with at most `depth` levels of nesting, of which a reader for numbers of at most `longest`
digits misses nothing. -/
inductive IsPlain (longest : Nat) : (depth : Nat) → Value → Prop where
  | null {depth : Nat} : IsPlain longest depth .null
  | bool {depth : Nat} (b : Bool) : IsPlain longest depth (.bool b)
  | int {depth : Nat} {n : Int} (h : n.natAbs < digitBound longest) : IsPlain longest depth (.int n)
  | text {depth : Nat} (s : String) : IsPlain longest depth (.text s)
  | list {depth : Nat} {items : List Value} (h : ∀ v ∈ items, IsPlain longest depth v) :
    IsPlain longest (depth + 1) (.list items)
  | object {depth : Nat} {fields : Fields} (keys : (fields.map Prod.fst).Nodup)
    (h : ∀ f ∈ fields, IsPlain longest depth f.2) : IsPlain longest (depth + 1) (.object fields)

/-- Only blanks are between tokens. -/
structure Layout.IsBlank (layout : Layout) : Prop where
  newline : ∀ level, ∀ c ∈ layout.newline level, isSpace c = true
  afterColon : ∀ c ∈ layout.afterColon, isSpace c = true

theorem Layout.compact_isBlank : compact.IsBlank :=
  ⟨fun _ _ h => absurd h List.not_mem_nil, fun _ h => absurd h List.not_mem_nil⟩

theorem Layout.indented_isBlank (width : Nat) : (indented width).IsBlank := by
  refine ⟨fun level c hc => ?_, fun c hc => ?_⟩
  · rcases List.mem_cons.1 hc with rfl | hc
    · rfl
    · rw [List.eq_of_mem_replicate hc]
      rfl
  · rw [List.mem_singleton.1 hc]
    rfl

theorem skipSpace_append {blank : List Char} (h : ∀ c ∈ blank, isSpace c = true) (s : List Char) :
    skipSpace (blank ++ s) = skipSpace s :=
  List.dropWhile_append_of_pos h

theorem skipSpace_cons {c : Char} (h : isSpace c = false) (s : List Char) :
    skipSpace (c :: s) = c :: s :=
  List.dropWhile_cons_of_neg (by rw [h]; exact Bool.false_ne_true)

variable {longest fuel depth : Nat} {blank : List Char}

theorem value?_append (h : ∀ c ∈ blank, isSpace c = true) (s : List Char) :
    value? longest fuel depth (blank ++ s) = value? longest fuel depth s := by
  cases fuel with
  | zero => rfl
  | succ fuel => rw [value?, value?, skipSpace_append h]

theorem items?_append (h : ∀ c ∈ blank, isSpace c = true) (s : List Char) :
    items? longest fuel depth (blank ++ s) = items? longest fuel depth s := by
  cases fuel with
  | zero => rfl
  | succ fuel => rw [items?, items?, value?_append h]

theorem members?_append (h : ∀ c ∈ blank, isSpace c = true) (known : Fields) (s : List Char) :
    members? longest fuel depth known (blank ++ s) = members? longest fuel depth known s := by
  cases fuel with
  | zero => rfl
  | succ fuel => rw [members?, members?, skipSpace_append h]

theorem value?_text (s : String) (r : List Char) :
    value? longest (fuel + 1) depth (textToken s ++ r) = some (.text s, r) := by
  have hquote : skipSpace (textToken s ++ r) = '"' :: (s.toList.flatMap escapeChar ++ '"' :: r) := by
    rw [textToken, List.cons_append, skipSpace_cons rfl, List.append_assoc]
    rfl
  rw [value?, hquote]
  show (textBody _).map _ = _
  rw [textBody_flatMap_escapeChar, Option.map_some, String.ofList_toList]

theorem value?_of_cons {c : Char} (hspace : isSpace c = false) (hquote : c ≠ '"') (hlist : c ≠ '[')
    (hobject : c ≠ '\x7b') (s : List Char) : value? longest (fuel + 1) depth (c :: s) =
      match word? (c :: s) with
      | some p => some p
      | none => number? longest (c :: s) := by
  rw [value?, skipSpace_cons hspace]
  split
  next h => exact absurd (List.cons.inj h).1 hquote
  next h => exact absurd (List.cons.inj h).1 hlist
  next h => exact absurd (List.cons.inj h).1 hobject
  · rfl

theorem ne_of_isAsciiDigit {c d : Char} (hc : isAsciiDigit c = true) (hd : isAsciiDigit d = false) :
    c ≠ d := by
  rintro rfl
  rw [hc] at hd
  cases hd

theorem isSpace_of_isAsciiDigit {c : Char} (hc : isAsciiDigit c = true) : isSpace c = false := by
  have hne {d : Char} (hd : isAsciiDigit d = false) : (c == d) = false :=
    beq_false_of_ne (ne_of_isAsciiDigit hc hd)
  rw [isSpace, hne rfl, hne rfl, hne rfl, hne rfl]
  rfl

theorem isPrefixOf_digit {w : List Char} (hw : w.head?.map isAsciiDigit = some false) {c : Char}
    (hc : isAsciiDigit c = true) (s : List Char) : w.isPrefixOf (c :: s) = false := by
  cases w with
  | nil => cases hw
  | cons d w =>
    have hd : isAsciiDigit d = false := Option.some.inj hw
    rw [List.isPrefixOf_cons_cons, beq_false_of_ne (ne_of_isAsciiDigit hc hd).symm, Bool.false_and]

theorem word?_eq_none {s : List Char} (h : ∀ w ∈ wordValues, w.1.toList.isPrefixOf s = false) :
    word? s = none := by
  rw [word?, List.findSome?_eq_none_iff]
  intro w hw
  rw [after?, h w hw]
  rfl

/-- No word is a number, and with a minus sign there is only the negative infinity. -/
theorem word?_digit {c : Char} (hc : isAsciiDigit c = true) (s : List Char) :
    word? (c :: s) = none ∧ word? ('-' :: c :: s) = none := by
  have hfirst : ∀ w ∈ wordValues, w.1.toList.head?.map isAsciiDigit = some false := by decide
  have hsecond : ∀ w ∈ wordValues, w.1.toList.tail.head?.map isAsciiDigit = some false := by decide
  refine ⟨word?_eq_none fun w hw => isPrefixOf_digit (hfirst w hw) hc s, ?_⟩
  refine word?_eq_none fun w hw => ?_
  have htail := isPrefixOf_digit (hsecond w hw) hc s
  cases hword : w.1.toList with
  | nil =>
    rw [hword] at htail
    cases htail
  | cons d ds =>
    rw [hword, List.tail_cons] at htail
    rw [List.isPrefixOf_cons_cons, htail, Bool.and_false]

theorem value?_int {n : Int} (hn : n.natAbs < digitBound longest) (hpos : 0 < longest) {r : List Char}
    (hr : EndsNumber r) :
    value? longest (fuel + 1) depth ((toString n).toList ++ r) = some (.int n, r) := by
  have hnumber := number?_toString hn hpos hr
  obtain ⟨c, t, hcons, hc⟩ := toDigits_eq_cons n.natAbs
  obtain ⟨-, htoken⟩ | ⟨-, htoken⟩ := toList_toString_cases n
  · rw [htoken, hcons, List.cons_append] at hnumber ⊢
    rw [value?_of_cons (isSpace_of_isAsciiDigit hc) (ne_of_isAsciiDigit hc rfl) (ne_of_isAsciiDigit hc rfl)
      (ne_of_isAsciiDigit hc rfl), (word?_digit hc _).1, hnumber]
  · rw [htoken, hcons, List.cons_append, List.cons_append] at hnumber ⊢
    rw [value?_of_cons rfl (by decide) (by decide) (by decide), (word?_digit hc _).2, hnumber]

theorem endsNumber_cons {c : Char} (h : isAsciiDigit c = false ∧ c ≠ '.' ∧ c ≠ 'e' ∧ c ≠ 'E')
    (r : List Char) : EndsNumber (c :: r) := by
  rintro _ ⟨⟩
  exact h

/-- No number goes on with a blank, nor after it. -/
theorem endsNumber_append (h : ∀ c ∈ blank, isSpace c = true) {r : List Char} (hr : EndsNumber r) :
    EndsNumber (blank ++ r) := by
  have hspace : ∀ c, isSpace c = true → isAsciiDigit c = false ∧ c ≠ '.' ∧ c ≠ 'e' ∧ c ≠ 'E' := by
    intro c hc
    simp only [isSpace, Bool.or_eq_true, beq_iff_eq] at hc
    obtain ((rfl | rfl) | rfl) | rfl := hc <;> decide
  cases blank with
  | nil => exact hr
  | cons c blank => exact endsNumber_cons (hspace c (h c List.mem_cons_self)) _

theorem token_eq_cons (layout : Layout) (level : Nat) {v : Value} (h : IsPlain longest depth v) :
    ∃ c s, token layout level v = c :: s ∧ isSpace c = false ∧ c ≠ ']' := by
  cases h with
  | null => exact ⟨_, _, rfl, rfl, by decide⟩
  | bool b => cases b <;> exact ⟨_, _, rfl, rfl, by decide⟩
  | @int _ n h =>
    obtain ⟨-, htoken⟩ | ⟨-, htoken⟩ := toList_toString_cases n
    · obtain ⟨c, t, hcons, hc⟩ := toDigits_eq_cons n.natAbs
      exact ⟨c, t, htoken.trans hcons, isSpace_of_isAsciiDigit hc, ne_of_isAsciiDigit hc rfl⟩
    · exact ⟨_, _, htoken, rfl, by decide⟩
  | text s => exact ⟨_, _, rfl, rfl, by decide⟩
  | @list _ items h => cases items <;> exact ⟨_, _, rfl, rfl, by decide⟩
  | @object _ fields keys h =>
    obtain _ | ⟨⟨k, v⟩, r⟩ := fields <;> exact ⟨_, _, rfl, rfl, by decide⟩

/-- The token of a value reads as the value, whatever comes after it. -/
def Reads (longest : Nat) (layout : Layout) (depth : Nat) (v : Value) : Prop :=
  ∀ fuel level r, EndsNumber r → (token layout level v).length ≤ fuel →
    value? longest fuel depth (token layout level v ++ r) = some (v, r)

variable {layout : Layout} {level : Nat}

/-- The items of a list, from one of them to the bracket. -/
theorem items?_tokens (hnewline : ∀ c ∈ layout.newline level, isSpace c = true)
    {v : Value} {items : List Value} (h : ∀ w ∈ v :: items, Reads longest layout depth w)
    {fuel : Nat} (hfuel : (token layout level v ++ tailTokens layout level items).length < fuel)
    (hblank : ∀ c ∈ blank, isSpace c = true) (r : List Char) :
    items? longest fuel depth
      (token layout level v ++ tailTokens layout level items ++ (blank ++ ']' :: r)) =
      some (v :: items, r) := by
  obtain _ | fuel := fuel
  · exact absurd hfuel (Nat.not_lt_zero _)
  -- each item takes one call, and its value is read with those that are left
  induction items generalizing v fuel with
  | nil =>
    rw [tailTokens, List.append_nil] at hfuel
    have hv := h v List.mem_cons_self fuel level (blank ++ ']' :: r)
      (endsNumber_append hblank (endsNumber_cons (by decide) r)) (Nat.le_of_lt_succ hfuel)
    rw [tailTokens, List.append_nil, items?, hv]
    dsimp only
    rw [skipSpace_append hblank, skipSpace_cons rfl]
    rfl
  | cons w items ih =>
    let rest := layout.newline level ++ (token layout level w ++ tailTokens layout level items ++
      (blank ++ ']' :: r))
    have htokens : token layout level v ++ tailTokens layout level (w :: items) ++
        (blank ++ ']' :: r) = token layout level v ++ ',' :: rest := by
      simp only [tailTokens, rest, List.append_assoc, List.cons_append]
    have hlength : (token layout level v).length + ((layout.newline level).length +
        (token layout level w ++ tailTokens layout level items).length + 1) < fuel + 1 := by
      simpa [tailTokens, Nat.add_assoc] using hfuel
    obtain _ | fuel := fuel
    · omega
    have hv := h v List.mem_cons_self (fuel + 1) level (',' :: rest)
      (endsNumber_cons (by decide) rest) (by omega)
    have hitems := ih (fun u hu => h u (List.mem_cons_of_mem v hu)) fuel (v := w) (by omega)
    rw [htokens, items?, hv]
    dsimp only
    rw [skipSpace_cons rfl]
    show (items? longest (fuel + 1) depth rest).map _ = _
    rw [items?_append hnewline, hitems]
    rfl

/-- A member of an object, without what separates it from the others. -/
def memberToken (layout : Layout) (level : Nat) (k : String) (v : Value) : List Char :=
  textToken k ++ ':' :: (layout.afterColon ++ token layout level v)

theorem members?_member (hcolon : ∀ c ∈ layout.afterColon, isSpace c = true) {v : Value}
    (hv : Reads longest layout depth v) (hfuel : (token layout level v).length ≤ fuel)
    (known : Fields) (k : String) {s : List Char} (hs : EndsNumber s) (t : List Char) :
    (skipSpace s = ',' :: t →
      members? longest (fuel + 1) depth known (memberToken layout level k v ++ s) =
        members? longest fuel depth (known.put k v) t) ∧
    (skipSpace s = '\x7d' :: t →
      members? longest (fuel + 1) depth known (memberToken layout level k v ++ s) =
        some (known.put k v, t)) := by
  have htokens : skipSpace (memberToken layout level k v ++ s) =
      '"' :: (k.toList.flatMap escapeChar ++
        '"' :: (':' :: (layout.afterColon ++ (token layout level v ++ s)))) := by
    simp only [memberToken, textToken, List.append_assoc, List.cons_append, List.nil_append]
    rw [skipSpace_cons rfl]
  have hcolon' : skipSpace (':' :: (layout.afterColon ++ (token layout level v ++ s))) =
      ':' :: (layout.afterColon ++ (token layout level v ++ s)) := skipSpace_cons rfl _
  have hvalue : value? longest fuel depth
      (layout.afterColon ++ (token layout level v ++ s)) = some (v, s) := by
    rw [value?_append hcolon, hv fuel level s hs hfuel]
  constructor <;> intro hend <;>
    simp only [members?, htokens, textBody_flatMap_escapeChar, hcolon', hvalue, hend,
      String.ofList_toList]

/-- A member is longer than its value. -/
theorem length_token_lt_memberToken (layout : Layout) (level : Nat) (k : String) (v : Value) :
    (token layout level v).length < (memberToken layout level k v).length := by
  simp only [memberToken, textToken, List.length_append, List.length_cons]
  omega

theorem not_mem_keys {known fields : Fields} {k : String} {v : Value}
    (h : ((known ++ (k, v) :: fields).map Prod.fst).Nodup) : k ∉ known.map Prod.fst := by
  rw [List.map_append, List.map_cons, List.nodup_append] at h
  exact fun hk => h.2.2 k hk k List.mem_cons_self rfl

theorem put_of_new {known : Fields} {k : String} (h : k ∉ known.map Prod.fst) (v : Value) :
    known.put k v = known ++ [(k, v)] := by
  have hnone : known.any (·.1 == k) = false := by
    rw [List.any_eq_false]
    intro f hf hk
    exact h (List.mem_map.2 ⟨f, hf, eq_of_beq hk⟩)
  rw [Fields.put, hnone, if_neg Bool.false_ne_true]

/-- The members of an object, from one of them to the brace. -/
theorem members?_tokens (hlayout : layout.IsBlank) {known : Fields} {k : String} {v : Value}
    {fields : Fields} (h : ∀ f ∈ (k, v) :: fields, Reads longest layout depth f.2)
    (keys : ((known ++ (k, v) :: fields).map Prod.fst).Nodup) {fuel : Nat}
    (hfuel : (memberToken layout level k v ++ tailMembers layout level fields).length ≤ fuel)
    (hblank : ∀ c ∈ blank, isSpace c = true) (r : List Char) :
    members? longest fuel depth known (memberToken layout level k v ++
      tailMembers layout level fields ++ (blank ++ '\x7d' :: r)) =
      some (known ++ (k, v) :: fields, r) := by
  -- a member that is read goes to the end of `known`, for its key is a new one
  induction fields generalizing known k v fuel with
  | nil =>
    have hnew := not_mem_keys keys
    have hmember := length_token_lt_memberToken layout level k v
    rw [tailMembers, List.append_nil] at hfuel ⊢
    obtain _ | fuel := fuel
    · omega
    have hv : (token layout level v).length ≤ fuel := by omega
    have hend : skipSpace (blank ++ '\x7d' :: r) = '\x7d' :: r := by
      rw [skipSpace_append hblank, skipSpace_cons rfl]
    rw [(members?_member hlayout.afterColon (h _ List.mem_cons_self) hv known k
      (endsNumber_append hblank (endsNumber_cons (by decide) r)) r).2 hend, put_of_new hnew]
  | cons f fields ih =>
    obtain ⟨k', v'⟩ := f
    let rest := layout.newline level ++ (memberToken layout level k' v' ++
      tailMembers layout level fields ++ (blank ++ '\x7d' :: r))
    have htokens : memberToken layout level k v ++ tailMembers layout level ((k', v') :: fields) ++
        (blank ++ '\x7d' :: r) = memberToken layout level k v ++ ',' :: rest := by
      simp only [tailMembers, memberToken, rest, List.append_assoc, List.cons_append]
    have hlength : (memberToken layout level k v).length + ((layout.newline level).length +
        (memberToken layout level k' v' ++ tailMembers layout level fields).length + 1) ≤ fuel := by
      simp only [tailMembers, memberToken, List.length_append, List.length_cons] at hfuel ⊢
      omega
    have hmember := length_token_lt_memberToken layout level k v
    obtain _ | fuel := fuel
    · omega
    have hkeys : ((known ++ [(k, v)] ++ (k', v') :: fields).map Prod.fst).Nodup := by
      rwa [List.append_assoc]
    have hv : (token layout level v).length ≤ fuel := by omega
    have hcomma : skipSpace (',' :: rest) = ',' :: rest := skipSpace_cons rfl rest
    rw [htokens, (members?_member hlayout.afterColon (h _ List.mem_cons_self) hv known k
      (endsNumber_cons (by decide) rest) rest).1 hcomma, put_of_new (not_mem_keys keys),
      members?_append (hlayout.newline level),
      ih (fun g hg => h g (List.mem_cons_of_mem _ hg)) hkeys (by omega), List.append_assoc]
    rfl

theorem value?_list_cons (hblank : ∀ c ∈ blank, isSpace c = true) {c : Char}
    (hspace : isSpace c = false) (hc : c ≠ ']') (s : List Char) :
    value? longest (fuel + 1) (depth + 1) ('[' :: (blank ++ c :: s)) =
      (items? longest fuel depth (c :: s)).map fun p => (.list p.1, p.2) := by
  have hopen : skipSpace ('[' :: (blank ++ c :: s)) = '[' :: (blank ++ c :: s) :=
    skipSpace_cons rfl _
  have hitem : skipSpace (blank ++ c :: s) = c :: s := by
    rw [skipSpace_append hblank, skipSpace_cons hspace]
  simp only [value?, hopen, hitem]
  split
  next h => exact absurd (List.cons.inj h).1 hc
  · rfl

theorem value?_object_cons (hblank : ∀ c ∈ blank, isSpace c = true) {c : Char}
    (hspace : isSpace c = false) (hc : c ≠ '\x7d') (s : List Char) :
    value? longest (fuel + 1) (depth + 1) ('\x7b' :: (blank ++ c :: s)) =
      (members? longest fuel depth [] (c :: s)).map fun p => (.object p.1, p.2) := by
  have hopen : skipSpace ('\x7b' :: (blank ++ c :: s)) = '\x7b' :: (blank ++ c :: s) :=
    skipSpace_cons rfl _
  have hmember : skipSpace (blank ++ c :: s) = c :: s := by
    rw [skipSpace_append hblank, skipSpace_cons hspace]
  simp only [value?, hopen, hmember]
  split
  next h => exact absurd (List.cons.inj h).1 hc
  · rfl

theorem reads_of_succ {v : Value} (hv : IsPlain longest depth v)
    (h : ∀ fuel level r, EndsNumber r → (token layout level v).length ≤ fuel + 1 →
      value? longest (fuel + 1) depth (token layout level v ++ r) = some (v, r)) :
    Reads longest layout depth v := by
  intro fuel level r hr hfuel
  obtain ⟨c, s, htoken, -⟩ := token_eq_cons layout level hv
  cases fuel with
  | zero =>
    rw [htoken] at hfuel
    exact absurd hfuel (Nat.not_succ_le_zero _)
  | succ fuel => exact h fuel level r hr hfuel

/-- What is written reads back, if there is a call for each character. -/
theorem IsPlain.reads (hlayout : layout.IsBlank) (hpos : 0 < longest) {v : Value}
    (h : IsPlain longest depth v) : Reads longest layout depth v := by
  induction h with
  | null =>
    refine reads_of_succ .null fun fuel level r _ _ => ?_
    exact value?_of_cons rfl (by decide) (by decide) (by decide) _
  | bool b =>
    refine reads_of_succ (.bool b) fun fuel level r _ _ => ?_
    cases b <;> exact value?_of_cons rfl (by decide) (by decide) (by decide) _
  | int hn => exact reads_of_succ (.int hn) fun fuel level r hr _ => value?_int hn hpos hr
  | text s => exact reads_of_succ (.text s) fun fuel level r _ _ => value?_text s r
  | @list depth items hitems ih =>
    refine reads_of_succ (.list hitems) fun fuel level r _ hfuel => ?_
    cases items with
    | nil => rfl
    | cons v items =>
      obtain ⟨c, s, htoken, hspace, hc⟩ :=
        token_eq_cons layout (level + 1) (hitems v List.mem_cons_self)
      have hlength : (token layout (level + 1) v ++
          tailTokens layout (level + 1) items).length < fuel := by
        simp only [token, List.length_append, List.length_cons] at hfuel ⊢
        omega
      have hread := items?_tokens (hlayout.newline (level + 1)) ih hlength (hlayout.newline level) r
      simp only [token, htoken, List.append_assoc, List.cons_append, List.nil_append] at hread ⊢
      rw [value?_list_cons (hlayout.newline (level + 1)) hspace hc, hread]
      rfl
  | @object depth fields keys hfields ih =>
    refine reads_of_succ (.object keys hfields) fun fuel level r _ hfuel => ?_
    obtain _ | ⟨⟨k, v⟩, fields⟩ := fields
    · rfl
    · have hlength : (memberToken layout (level + 1) k v ++
          tailMembers layout (level + 1) fields).length ≤ fuel := by
        simp only [token, memberToken, List.length_append, List.length_cons] at hfuel ⊢
        omega
      have hkeys : ((([] : Fields) ++ (k, v) :: fields).map Prod.fst).Nodup := keys
      have hread := members?_tokens hlayout ih hkeys hlength (hlayout.newline level) r
      simp only [token, memberToken, textToken, List.append_assoc, List.cons_append,
        List.nil_append] at hread ⊢
      rw [value?_object_cons (hlayout.newline (level + 1)) rfl (by decide), hread]
      rfl

/-- A written value is read back as it was, also if blanks come after it. -/
theorem read?_token (hlayout : layout.IsBlank) (hpos : 0 < longest) {v : Value}
    (h : IsPlain longest depth v) (hblank : ∀ c ∈ blank, isSpace c = true) :
    read? longest depth (token layout 0 v ++ blank) = some v := by
  have hend : EndsNumber blank := by
    rw [← List.append_nil blank]
    exact endsNumber_append hblank nofun
  have hskipped : skipSpace blank = [] := by
    rw [← List.append_nil blank, skipSpace_append hblank]
    rfl
  have hread := h.reads hlayout hpos (2 * (token layout 0 v ++ blank).length + 2) 0 blank hend (by
    rw [List.length_append]
    omega)
  rw [read?, hread]
  dsimp only
  rw [hskipped]
  rfl

/-- No carriage return is between tokens. -/
structure Layout.NoReturn (layout : Layout) : Prop where
  newline : ∀ level, '\r' ∉ layout.newline level
  afterColon : '\r' ∉ layout.afterColon

theorem Layout.compact_noReturn : compact.NoReturn :=
  ⟨fun _ => List.not_mem_nil, List.not_mem_nil⟩

theorem Layout.indented_noReturn (width : Nat) : (indented width).NoReturn := by
  refine ⟨fun level h => ?_, fun h => ?_⟩
  · rcases List.mem_cons.1 h with h | h
    · cases h
    · cases List.eq_of_mem_replicate h
  · cases List.mem_singleton.1 h

theorem return_not_mem_textToken (s : String) : '\r' ∉ textToken s := by
  have hbody : '\r' ∉ s.toList.flatMap escapeChar := by
    rw [List.mem_flatMap]
    rintro ⟨c, -, hc⟩
    exact return_not_mem_escapeChar c hc
  simp [textToken, hbody]

theorem return_not_mem_toString (n : Int) : '\r' ∉ (toString n).toList := by
  have hdigits : '\r' ∉ Nat.toDigits 10 n.natAbs := by
    intro h
    cases isAsciiDigit_of_mem_toDigits h
  obtain ⟨-, htoken⟩ | ⟨-, htoken⟩ := toList_toString_cases n
  · rwa [htoken]
  · rw [htoken, List.mem_cons, not_or]
    exact ⟨by decide, hdigits⟩

theorem return_not_mem_tailTokens (hlayout : layout.NoReturn) {items : List Value}
    (h : ∀ v ∈ items, '\r' ∉ token layout level v) : '\r' ∉ tailTokens layout level items := by
  induction items with
  | nil => exact List.not_mem_nil
  | cons v items ih =>
    have hv := h v List.mem_cons_self
    have hitems := ih fun w hw => h w (List.mem_cons_of_mem v hw)
    simp [tailTokens, hlayout.newline level, hv, hitems]

theorem return_not_mem_tailMembers (hlayout : layout.NoReturn) {fields : Fields}
    (h : ∀ f ∈ fields, '\r' ∉ token layout level f.2) : '\r' ∉ tailMembers layout level fields := by
  induction fields with
  | nil => exact List.not_mem_nil
  | cons f fields ih =>
    have hf := h f List.mem_cons_self
    have hfields := ih fun g hg => h g (List.mem_cons_of_mem f hg)
    simp [tailMembers, hlayout.newline level, hlayout.afterColon, return_not_mem_textToken, hf,
      hfields]

theorem return_not_mem_token (hlayout : layout.NoReturn) {v : Value} (h : IsPlain longest depth v)
    (level : Nat) : '\r' ∉ token layout level v := by
  induction h generalizing level with
  | null => exact List.count_eq_zero.1 rfl
  | bool b => cases b <;> exact List.count_eq_zero.1 rfl
  | int hn => exact return_not_mem_toString _
  | text s => exact return_not_mem_textToken s
  | @list depth items hitems ih =>
    cases items with
    | nil => exact List.count_eq_zero.1 rfl
    | cons v items =>
      have hv := ih v List.mem_cons_self (level + 1)
      have htail := return_not_mem_tailTokens hlayout fun w hw =>
        ih w (List.mem_cons_of_mem v hw) (level + 1)
      simp [token, hlayout.newline, hv, htail]
  | @object depth fields keys hfields ih =>
    obtain _ | ⟨⟨k, v⟩, fields⟩ := fields
    · exact List.count_eq_zero.1 rfl
    · have hv := ih (k, v) List.mem_cons_self (level + 1)
      have htail := return_not_mem_tailMembers hlayout fun f hf =>
        ih f (List.mem_cons_of_mem (k, v) hf) (level + 1)
      simp [token, hlayout.newline, hlayout.afterColon, return_not_mem_textToken, hv, htail]

end TableDraft.Json
