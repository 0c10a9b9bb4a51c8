import Corgtex.Domain.Errors
import Corgtex.Library.JsNumber

/-!
# Names of source tables

`connectors-sql/src/postgres.ts`: a selected table is configured as a token, the quoted or
plain name of a relation with or without its schema (`tableNames`), and every query quotes the two
names again (`quoteIdentifier`). What is quoted is read back as it was (`tableNames_quote`), and the
scan of a source (`native-scan.ts`) refuses two tokens of one relation (`describeTables_distinct`).
-/

namespace Corgtex.Connectors.Postgres

open Domain JsString List

/-- An error of the connector: its message, and the code of a `CursorError`. -/
structure ConnectorError where
  message : String
  code : Option String := none
deriving DecidableEq

/-! ## Quoting -/

/-- `"` -/
abbrev quotationMark : UInt16 := 0x22

/-- `.` -/
abbrev dot : UInt16 := 0x2E

/-- `value.replace(/"/g, '""')`. -/
def doubleQuotes (value : JsString) : JsString :=
  value.flatMap fun u => if u = quotationMark then [quotationMark, quotationMark] else [u]

/-- `quoteIdentifier` (line 27). -/
def quoteIdentifier (value : JsString) : Except ConnectorError JsString :=
  if value = [] ∨ 0 ∈ value then
    .error ⟨"SQL identifiers must be nonempty and cannot contain null characters", none⟩
  else .ok (quotationMark :: doubleQuotes value ++ [quotationMark])

/-! ## Reading a token -/

/-- The names of a relation. -/
structure TableNames where
  schema : JsString
  name : JsString
deriving DecidableEq

def invalidIdentifier : ConnectorError := ⟨"Invalid SQL table identifier", none⟩

def invalidQuotedIdentifier : ConnectorError := ⟨"Invalid quoted SQL table identifier", none⟩

def unusualIdentifier : ConnectorError :=
  ⟨"Invalid SQL table identifier; quote unusual schema and table names", none⟩

/-- A quoted name, up to its closing quotation mark, and what comes after it; `none` where there is
no closing mark. -/
def readQuoted : JsString → Option (JsString × JsString)
  | [] => none
  | u :: rest =>
    if u ≠ quotationMark then (readQuoted rest).map fun (name, rest) => (u :: name, rest)
    else
      match rest with
      | [] => some ([], [])
      | v :: rest =>
        if v = quotationMark then
          (readQuoted rest).map fun (name, rest) => (quotationMark :: name, rest)
        else some ([], v :: rest)

/-- `[A-Za-z_]` -/
def startsName (u : UInt16) : Bool :=
  (0x41 ≤ u && u ≤ 0x5A) || (0x61 ≤ u && u ≤ 0x7A) || u = 0x5F

/-- `[A-Za-z0-9_$]` -/
def continuesName (u : UInt16) : Bool :=
  startsName u || (0x30 ≤ u && u ≤ 0x39) || u = 0x24

/-- `/^[A-Za-z_][A-Za-z0-9_$]*$/` -/
def isSimpleName : JsString → Bool
  | [] => false
  | u :: rest => startsName u && rest.all continuesName

/-- One component of a token, and what comes after it (line 40). -/
def readComponent (input : JsString) : Except ConnectorError (JsString × JsString) :=
  match input.dropWhile isSpace with
  | [] => if input = [] then .error unusualIdentifier else .error invalidIdentifier
  | u :: body =>
    if u = quotationMark then
      match readQuoted body with
      | none => .error invalidQuotedIdentifier
      | some (name, rest) =>
        let rest := rest.dropWhile isSpace
        if rest = [] ∨ rest.head? = some dot then .ok (name, rest)
        else .error invalidQuotedIdentifier
    else if (u :: body).length ≠ input.length then .error invalidIdentifier
    else
      let name := input.takeWhile (· ≠ dot)
      if quotationMark ∈ name then .error invalidIdentifier
      else if isSimpleName name then .ok (name, input.dropWhile (· ≠ dot))
      else .error unusualIdentifier

/-! ### What is read -/

@[simp] theorem doubleQuotes_nil : doubleQuotes [] = [] := rfl

theorem doubleQuotes_cons_of_ne {u : UInt16} (h : u ≠ quotationMark) (value : JsString) :
    doubleQuotes (u :: value) = u :: doubleQuotes value := by
  simp [doubleQuotes, h]

theorem doubleQuotes_cons_self (value : JsString) :
    doubleQuotes (quotationMark :: value) =
      quotationMark :: quotationMark :: doubleQuotes value := by
  simp [doubleQuotes]

theorem mem_doubleQuotes {u : UInt16} {value : JsString} : u ∈ doubleQuotes value ↔ u ∈ value := by
  induction value with
  | nil => rfl
  | cons v value ih =>
    by_cases hv : v = quotationMark
    · subst hv
      rw [doubleQuotes_cons_self]
      simp [ih]
    · rw [doubleQuotes_cons_of_ne hv]
      simp [ih]

theorem readQuoted_doubleQuotes {name rest : JsString} (h : rest.head? ≠ some quotationMark) :
    readQuoted (doubleQuotes name ++ quotationMark :: rest) = some (name, rest) := by
  induction name with
  | nil =>
    cases rest with
    | nil => rfl
    | cons v rest =>
      have hv : v ≠ quotationMark := fun he => h (he ▸ rfl)
      simp [readQuoted, hv]
  | cons u name ih =>
    by_cases hu : u = quotationMark
    · subst hu
      rw [doubleQuotes_cons_self]
      simp [readQuoted, ih]
    · rw [doubleQuotes_cons_of_ne hu, cons_append]
      unfold readQuoted
      simp [hu, ih]

variable {input name : JsString} {rest : JsString}

/-- **A quoted name is the doubled text up to its closing mark.** -/
theorem eq_of_readQuoted (h : readQuoted input = some (name, rest)) :
    input = doubleQuotes name ++ quotationMark :: rest := by
  fun_induction readQuoted input generalizing name rest with
  | case1 => cases h
  | case2 u body hu ih =>
    obtain ⟨⟨name', rest'⟩, hread, hsame⟩ := Option.map_eq_some_iff.1 h
    cases hsame
    rw [doubleQuotes_cons_of_ne hu, ih hread, cons_append]
  | case3 u hu =>
    cases h
    simp [not_not.1 hu]
  | case4 u hu body ih =>
    obtain ⟨⟨name', rest'⟩, hread, hsame⟩ := Option.map_eq_some_iff.1 h
    cases hsame
    rw [doubleQuotes_cons_self, ih hread, not_not.1 hu]
    rfl
  | case5 u hu v body hv =>
    cases h
    simp [not_not.1 hu]

/-- **What a component leaves over** is the end of the token or begins with the dot behind it, and
its name consists of what was read. -/
theorem readComponent_ok (h : readComponent input = .ok (name, rest)) :
    rest <:+ input ∧ (∀ u ∈ name, u ∈ input) := by
  have htrim : input.dropWhile isSpace <:+ input := dropWhile_suffix _
  unfold readComponent at h
  split at h
  · split at h <;> cases h
  · next u body hbody =>
    rw [hbody] at htrim
    split at h
    · next hu =>
      split at h
      · cases h
      · next name' rest' hread =>
        simp only at h
        split at h
        · cases h
          have hquoted := eq_of_readQuoted hread
          refine ⟨?_, fun v hv => htrim.subset (.tail _ ?_)⟩
          · refine (dropWhile_suffix _).trans (List.IsSuffix.trans ?_ htrim)
            exact ⟨u :: doubleQuotes name ++ [quotationMark], by simp [hquoted]⟩
          · rw [hquoted]
            exact mem_append_left _ (mem_doubleQuotes.2 hv)
        · cases h
    · split at h
      · cases h
      · simp only at h
        split at h
        · cases h
        · split at h
          · cases h
            exact ⟨dropWhile_suffix _, fun v hv => ( takeWhile_prefix _).subset hv⟩
          · cases h

/-! ## Tokens -/

/-- The components of a token, after those in `parts` (line 36). -/
def readComponents (input : JsString) (parts : List JsString) :
    Except ConnectorError (List JsString) :=
  if input = [] then .ok parts
  else
    match _ : readComponent input with
    | .error e => .error e
    | .ok (name, rest) =>
      if name = [] ∨ parts.length = 2 then .error invalidIdentifier
      else
        match rest with
        | [] => .ok (parts ++ [name])
        | _ :: rest =>
          if rest = [] then .error invalidIdentifier else readComponents rest (parts ++ [name])
termination_by input.length
decreasing_by
  have hle := (readComponent_ok ‹_›).1.length_le
  simp only [List.length_cons] at hle
  omega

/-- `tableNames` (line 34). -/
def tableNames (token : JsString) : Except ConnectorError TableNames := do
  if token = [] ∨ 0 ∈ token then .error invalidIdentifier
  else
    match ← readComponents token [] with
    | [name] => .ok ⟨lit "public", name⟩
    | schema :: name :: _ => .ok ⟨schema, name⟩
    | [] => .error invalidIdentifier

/-- A name that `quoteIdentifier` takes. -/
def IsIdentifier (name : JsString) : Prop := name ≠ [] ∧ 0 ∉ name

instance (name : JsString) : Decidable (IsIdentifier name) :=
  inferInstanceAs (Decidable (name ≠ [] ∧ 0 ∉ name))

theorem quoteIdentifier_ok {value quoted : JsString} : quoteIdentifier value = .ok quoted ↔
    IsIdentifier value ∧ quoted = quotationMark :: doubleQuotes value ++ [quotationMark] := by
  rw [quoteIdentifier, IsIdentifier]
  split
  · next h =>
    constructor
    · intro h
      cases h
    · rintro ⟨⟨hne, hnul⟩, _⟩
      rcases h with h | h
      · exact absurd h hne
      · exact absurd h hnul
  · next h =>
    rw [not_or] at h
    constructor
    · intro hok
      cases hok
      exact ⟨h, rfl⟩
    · rintro ⟨_, rfl⟩
      rfl

/-- A quoted name is read back, at the end of a token or in front of a dot. -/
theorem readComponent_quoted (name : JsString)
    (h : rest = [] ∨ rest.head? = some dot) :
    readComponent (quotationMark :: doubleQuotes name ++ quotationMark :: rest) =
      .ok (name, rest) := by
  have hhead : rest.head? ≠ some quotationMark := by
    rcases h with rfl | h
    · simp
    · rw [h]
      decide
  have hspace : rest.dropWhile isSpace = rest := by
    cases rest with
    | nil => rfl
    | cons u rest =>
      obtain rfl : u = dot := by simpa using h
      rfl
  have htrim : (quotationMark :: doubleQuotes name ++ quotationMark :: rest).dropWhile isSpace =
      quotationMark :: (doubleQuotes name ++ quotationMark :: rest) := rfl
  unfold readComponent
  rw [htrim]
  simp only [if_pos, readQuoted_doubleQuotes hhead, hspace, if_pos h]

variable {parts : List JsString}

/-- **The parts of a token** are not empty and hold what the token holds. -/
theorem readComponents_ok {result : List JsString} (h : readComponents input parts = .ok result) :
    ∀ name ∈ result, name ∈ parts ∨ name ≠ [] ∧ ∀ u ∈ name, u ∈ input := by
  fun_induction readComponents input parts with
  | case1 =>
    cases h
    exact fun name hname => .inl hname
  | case2 => cases h
  | case3 => cases h
  | case4 input parts _ name hnew hread =>
    cases h
    intro part hpart
    rcases mem_append.1 hpart with hold | hlast
    · exact .inl hold
    · obtain rfl := mem_singleton.1 hlast
      exact .inr ⟨fun he => hnew (.inl he), (readComponent_ok hread).2⟩
  | case5 => cases h
  | case6 input parts _ name hnew separator rest hread _ _ ih =>
    obtain ⟨hsuffix, hname⟩ := readComponent_ok hread
    intro part hpart
    rcases ih h part hpart with hold | ⟨hne, hunits⟩
    · rcases mem_append.1 hold with hold | hlast
      · exact .inl hold
      · obtain rfl := mem_singleton.1 hlast
        exact .inr ⟨fun he => hnew (.inl he), hname⟩
    · exact .inr ⟨hne, fun u hu => hsuffix.subset (.tail _ (hunits u hu))⟩

theorem readComponents_next {separator : UInt16}
    (h : readComponent input = .ok (name, separator :: rest)) (hname : name ≠ [])
    (hparts : parts.length ≠ 2) (hrest : rest ≠ []) :
    readComponents input parts = readComponents rest (parts ++ [name]) := by
  have hinput : input ≠ [] := by
    rintro rfl
    cases h
  rw [readComponents, if_neg hinput]
  split
  · next e he =>
    rw [h] at he
    cases he
  · next name' rest' hok =>
    rw [h] at hok
    cases hok
    simp only
    rw [if_neg (not_or.2 ⟨hname, hparts⟩), if_neg hrest]

theorem readComponents_last (h : readComponent input = .ok (name, [])) (hname : name ≠ [])
    (hparts : parts.length ≠ 2) : readComponents input parts = .ok (parts ++ [name]) := by
  have hinput : input ≠ [] := by
    rintro rfl
    cases h
  rw [readComponents, if_neg hinput]
  split
  · next e he =>
    rw [h] at he
    cases he
  · next name' rest' hok =>
    rw [h] at hok
    cases hok
    simp only
    rw [if_neg (not_or.2 ⟨hname, hparts⟩)]

theorem tableNames_ok {token : JsString} {names : TableNames} (h : tableNames token = .ok names) :
    IsIdentifier names.schema ∧ IsIdentifier names.name := by
  unfold tableNames at h
  split at h
  · cases h
  · next hvalid =>
    rw [not_or] at hvalid
    obtain ⟨parts, hparts, h⟩ := bind_ok.1 h
    have hidentifier : ∀ part ∈ parts, IsIdentifier part := by
      intro part hpart
      rcases readComponents_ok hparts part hpart with hold | ⟨hne, hunits⟩
      · cases hold
      · exact ⟨hne, fun hnul => hvalid.2 (hunits 0 hnul)⟩
    split at h
    · next name =>
      cases h
      exact ⟨(by decide : IsIdentifier (lit "public")), hidentifier name (.head _)⟩
    · next schema name rest =>
      cases h
      exact ⟨hidentifier schema (.head _), hidentifier name (.tail _ (.head _))⟩
    · cases h

/-- `quoteIdentifier(names.schema) + "." + quoteIdentifier(names.name)`, as the queries have it. -/
def quoteTable (names : TableNames) : Except ConnectorError JsString := do
  let safeSchema ← quoteIdentifier names.schema
  let safeName ← quoteIdentifier names.name
  .ok (safeSchema ++ [dot] ++ safeName)

/-- **What is quoted is read back.** -/
theorem tableNames_quoteTable {names : TableNames} (hschema : IsIdentifier names.schema)
    (hname : IsIdentifier names.name) :
    ∃ token, quoteTable names = .ok token ∧ tableNames token = .ok names := by
  have hfirst := quoteIdentifier_ok.2 ⟨hschema, rfl⟩
  have hsecond := quoteIdentifier_ok.2 ⟨hname, rfl⟩
  have htoken : quoteTable names = .ok (quotationMark :: doubleQuotes names.schema ++
      quotationMark :: dot :: (quotationMark :: doubleQuotes names.name ++ [quotationMark])) := by
    refine bind_ok.2 ⟨_, hfirst, bind_ok.2 ⟨_, hsecond, ?_⟩⟩
    simp
  have hdot : (dot :: (quotationMark :: doubleQuotes names.name ++ [quotationMark])).head? =
      some dot := rfl
  have hread₁ := readComponent_quoted names.schema (.inr hdot)
  have hread₂ := readComponent_quoted names.name (.inl rfl)
  refine ⟨_, htoken, ?_⟩
  unfold tableNames
  have hne : ∀ u ∈ [quotationMark, dot], (0 : UInt16) ≠ u := by simp [quotationMark, dot]
  have hnul : ¬ (quotationMark :: doubleQuotes names.schema ++ quotationMark ::
      dot :: (quotationMark :: doubleQuotes names.name ++ [quotationMark]) = [] ∨
      0 ∈ quotationMark :: doubleQuotes names.schema ++ quotationMark ::
        dot :: (quotationMark :: doubleQuotes names.name ++ [quotationMark])) := by
    simp [mem_doubleQuotes, hschema.2, hname.2, hne quotationMark, hne dot]
  rw [if_neg hnul, readComponents_next hread₁ hschema.1 (by decide) (by simp),
    readComponents_last hread₂ hname.1 (by simp)]
  rfl

/-! ## The tables of a source -/

/-- Two tokens of one table (`native-scan.ts:126`). -/
def sameTable : ConnectorError :=
  ⟨"Two selected table tokens resolve to the same source table; " ++
    "preserve the existing identity token.", some "CURSOR_CONFIGURATION_INVALID"⟩

/-- `relation` (`native-scan.ts:124`). -/
def relationKey (relationOid : ℕ) (names : TableNames) : JsString :=
  JsNumber.decimal relationOid ++ lit ":" ++ names.schema ++ lit ":" ++ names.name

/-- The tokens that a scan selects (`native-scan.ts:119`), with the `relations` before them.
`describe` is the query of `describeTable`, which looks the names up in the catalog and refuses a
table without a definition that it supports. -/
def selectTables (describe : TableNames → Except ConnectorError ℕ) :
    (selectedTables relations : List JsString) → Except ConnectorError (List JsString)
  | [], relations => .ok relations
  | table :: tables, relations => do
    let names ← tableNames table
    let relationOid ← describe names
    let relation := relationKey relationOid names
    if relation ∈ relations then .error sameTable
    else selectTables describe tables (relations ++ [relation])

theorem selectTables_ok {describe : TableNames → Except ConnectorError ℕ}
    {tables relations result : List JsString}
    (h : selectTables describe tables relations = .ok result) :
    (∀ table ∈ tables, ∃ names relationOid, tableNames table = .ok names ∧
      describe names = .ok relationOid ∧ relationKey relationOid names ∉ relations) ∧
    tables.Pairwise fun table later => tableNames table ≠ tableNames later := by
  induction tables generalizing relations with
  | nil => exact ⟨by simp, .nil⟩
  | cons table tables ih =>
    obtain ⟨names, hnames, h⟩ := bind_ok.1 h
    obtain ⟨relationOid, hoid, h⟩ := bind_ok.1 h
    simp only at h
    split at h
    · cases h
    · next hnew =>
      obtain ⟨hrest, hpairwise⟩ := ih h
      refine ⟨fun later hlater => ?_, pairwise_cons.2 ⟨fun later hlater hsame => ?_, hpairwise⟩⟩
      · rcases mem_cons.1 hlater with rfl | hlater
        · exact ⟨names, relationOid, hnames, hoid, hnew⟩
        · obtain ⟨names', relationOid', hnames', hoid', hnew'⟩ := hrest later hlater
          exact ⟨names', relationOid', hnames', hoid', fun hmem =>
            hnew' (mem_append_left _ hmem)⟩
      · -- the same names have the same definition
        obtain ⟨names', relationOid', hnames', hoid', hnew'⟩ := hrest later hlater
        obtain rfl : names = names' := Except.ok.inj (hnames.symm.trans (hsame.trans hnames'))
        obtain rfl : relationOid = relationOid' := Except.ok.inj (hoid.symm.trans hoid')
        exact hnew' (mem_append_right _ (.head _))

/-- **Names survive quoting**: what is quoted is read back, so is what any accepted token names, and
a scan that selects tables has no two tokens for one of them. -/
theorem tableNames_quote (describe : TableNames → Except ConnectorError ℕ) :
    (∀ schema name, IsIdentifier schema → IsIdentifier name → ∃ quotedSchema quotedName,
      quoteIdentifier schema = .ok quotedSchema ∧ quoteIdentifier name = .ok quotedName ∧
      tableNames (quotedSchema ++ [dot] ++ quotedName) = .ok ⟨schema, name⟩) ∧
    (∀ token names, tableNames token = .ok names → ∃ quoted, quoteTable names = .ok quoted ∧
      tableNames quoted = .ok names) ∧
    ∀ tables relations, selectTables describe tables [] = .ok relations →
      tables.Pairwise fun table later => tableNames table ≠ tableNames later := by
  refine ⟨fun schema name hschema hname => ?_, fun token names h => ?_,
    fun tables relations h => ?_⟩
  · obtain ⟨token, hquote, hread⟩ :=
      (tableNames_quoteTable hschema hname : ∃ token, quoteTable ⟨schema, name⟩ = .ok token ∧ _)
    obtain ⟨quotedSchema, hfirst, hquote⟩ := bind_ok.1 hquote
    obtain ⟨quotedName, hsecond, hquote⟩ := bind_ok.1 hquote
    cases hquote
    exact ⟨quotedSchema, quotedName, hfirst, hsecond, hread⟩
  · exact tableNames_quoteTable (tableNames_ok h).1 (tableNames_ok h).2
  · exact (selectTables_ok h).2

/-- A legacy token, and a quoted one with white space, marks and a dot inside. -/
example : tableNames (lit "orders") = .ok ⟨lit "public", lit "orders"⟩ ∧
    tableNames (lit " \"a.b\" . \"say \"\"hi\"\"\"") = .ok ⟨lit "a.b", lit "say \"hi\""⟩ := by
  decide +kernel

end Corgtex.Connectors.Postgres
