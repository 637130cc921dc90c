import Mathlib.Data.List.Nodup
import Mathlib.Data.List.TakeDrop
import Pipework.Configuration
import Pipework.Proofs.Toml.Strings

/-!
Documents written as TOML and read again.
-/

set_option autoImplicit false
set_option relaxedAutoImplicit false

namespace Pipework.Toml.Table

/-! ## Tables

Entries with different keys become the fields of a table in their order, and headers with a common
start become the tables of one table in their order (`openGroup_fresh`).
-/

theorem alter_append {key : Text} {table : Table} (absent : key ∉ table.map Prod.fst)
    (rest : Table) (f : Option Value → Option Value) :
    (table ++ rest : Table).alter key f = (rest.alter key f).map (table ++ ·) := by
  induction table with
  | nil => simp
  | cons entry table ih =>
    rw [List.map_cons, List.mem_cons, not_or] at absent
    rw [List.cons_append, alter, if_neg (Ne.symm absent.1), ih absent.2, Option.map_map]
    rfl

theorem alter_fresh {key : Text} {table : Table} (absent : key ∉ table.map Prod.fst)
    (f : Option Value → Option Value) :
    table.alter key f = (f none).map fun v => table ++ [(key, v)] := by
  simpa [alter, Function.comp_def] using alter_append absent [] f

theorem alter_last {key : Text} {table : Table} (absent : key ∉ table.map Prod.fst) (v : Value)
    (f : Option Value → Option Value) :
    (table ++ [(key, v)] : Table).alter key f =
      (f (some v)).map fun w => table ++ [(key, w)] := by
  simpa [alter, Function.comp_def] using alter_append absent [(key, v)] f

theorem not_mem_before {α : Type} {before after : List (Text × α)} {entry : Text × α}
    (distinct : ((before ++ entry :: after).map Prod.fst).Nodup) :
    entry.1 ∉ before.map Prod.fst := by
  intro mem
  rw [List.map_append, List.nodup_append] at distinct
  exact distinct.2.2 entry.1 mem entry.1 (by simp) rfl

def entries (fields : Table) : List (List Text × Value) :=
  fields.map fun field => ([field.1], field.2)

theorem fill_entries {fields table : Table} (distinct : ((table ++ fields).map Prod.fst).Nodup) :
    fill (entries fields) table = some (table ++ fields) := by
  induction fields generalizing table with
  | nil => simp [fill, entries]
  | cons field fields ih =>
    have absent := not_mem_before distinct
    rw [List.append_cons] at distinct
    have later := ih distinct
    rw [entries, List.map_cons, fill, List.foldlM_cons, put, if_pos rfl, alter_fresh absent]
    simpa [fill, entries, fresh] using later

theorem start_header {fields : Table} (distinct : (fields.map Prod.fst).Nodup) :
    start false (entries fields) none = some (.table .header fields) := by
  have filled : fill (entries fields) [] = some fields := fill_entries distinct
  simp [start, filled]

variable {table : Table} {outer : Text}

theorem openSection_single {key : Text} {fields : Table} (absent : key ∉ table.map Prod.fst)
    (distinct : (fields.map Prod.fst).Nodup) :
    table.openSection false (entries fields) [key] =
      some (table ++ [(key, .table .header fields)]) := by
  rw [openSection, alter_fresh absent, start_header distinct]
  rfl

def group (tables : List (Text × Table)) : Value :=
  .table .path (tables.map fun t => (t.1, .table .header t.2))

def openGroup (outer : Text) (tables : List (Text × Table)) (table : Table) : Option Table :=
  tables.foldlM (fun (all : Table) t => all.openSection false (entries t.2) [outer, t.1]) table

theorem openSection_last (absent : outer ∉ table.map Prod.fst) {tables : List (Text × Table)}
    {t : Text × Table} (other : t.1 ∉ tables.map Prod.fst) (distinct : (t.2.map Prod.fst).Nodup) :
    (table ++ [(outer, group tables)] : Table).openSection false (entries t.2) [outer, t.1] =
      some (table ++ [(outer, group (tables ++ [t]))]) := by
  have inside : openSection false (entries t.2) [t.1]
      (tables.map fun t => (t.1, .table .header t.2)) =
        some ((tables ++ [t]).map fun t => (t.1, .table .header t.2)) := by
    rw [openSection_single (by simpa [Function.comp_def] using other) distinct]
    simp
  rw [openSection, alter_last absent]
  simp [group, inside]

theorem openGroup_fresh (absent : outer ∉ table.map Prod.fst) {tables : List (Text × Table)}
    (nonempty : tables ≠ []) (keys : (tables.map Prod.fst).Nodup)
    (distinct : ∀ t ∈ tables, (t.2.map Prod.fst).Nodup) :
    openGroup outer tables table = some (table ++ [(outer, group tables)]) := by
  have later (tables before : List (Text × Table))
      (keys : ((before ++ tables).map Prod.fst).Nodup)
      (distinct : ∀ t ∈ tables, (t.2.map Prod.fst).Nodup) :
      openGroup outer tables (table ++ [(outer, group before)]) =
        some (table ++ [(outer, group (before ++ tables))]) := by
    induction tables generalizing before with
    | nil => simp [openGroup]
    | cons t tables ih =>
      rw [List.forall_mem_cons] at distinct
      have other := not_mem_before keys
      rw [List.append_cons before t tables] at keys ⊢
      rw [openGroup, List.foldlM_cons, openSection_last absent other distinct.1]
      exact ih _ keys distinct.2
  obtain ⟨t, tables, rfl⟩ := List.exists_cons_of_ne_nil nonempty
  rw [List.forall_mem_cons] at distinct
  have first : table.openSection false (entries t.2) [outer, t.1] =
      some (table ++ [(outer, group [t])]) := by
    have inside : openSection false (entries t.2) [t.1] [] =
        some [(t.1, .table .header t.2)] := openSection_single List.not_mem_nil distinct.1
    rw [openSection, alter_fresh absent]
    simp [group, inside]
  rw [openGroup, List.foldlM_cons, first]
  exact later tables [t] keys distinct.2

end Pipework.Toml.Table

/-! ## Documents

A document that is written section by section is read back line by line (`ofText?_document`).
-/

namespace Pipework

def OptionValue.toValue : OptionValue → Toml.Value
  | .flag b => .boolean b
  | .text t => .string t

namespace Toml

/-! ### Values -/

theorem exists_writeString (t : Text) :
    ∃ quote rest, writeString t = quote :: rest ∧ (quote = '\x22' ∨ quote = '\'') := by
  rw [writeString]
  cases Style.of t with
  | basic => exact ⟨_, _, rfl, .inl rfl⟩
  | literal => exact ⟨_, _, rfl, .inr rfl⟩
  | multiBasic => exact ⟨_, _, rfl, .inl rfl⟩
  | multiLiteral => exact ⟨_, _, rfl, .inr rfl⟩

theorem value_writeString (t rest : Text) :
    value (writeString t ++ '\n' :: rest) = some (.string t, '\n' :: rest) := by
  obtain ⟨quote, tail, same, kind⟩ := exists_writeString t
  have read : quoted (writeString t ++ '\n' :: rest) = some (t, '\n' :: rest) :=
    quoted_writeString t (by simp) (by simp)
  rw [same, List.cons_append] at read ⊢
  rw [value, Nat.mul_comm]
  simp [valueFrom, kind, read]

theorem value_writeBoolean (b : Bool) (rest : Text) :
    value (writeBoolean b ++ rest) = some (.boolean b, rest) := by
  cases b <;> simp [value, writeBoolean, valueFrom]

theorem value_toToml (v : OptionValue) (rest : Text) :
    value (v.toToml ++ '\n' :: rest) = some (v.toValue, '\n' :: rest) := by
  cases v with
  | flag b => exact value_writeBoolean b _
  | text t => exact value_writeString t rest

theorem skipGap_toToml (v : OptionValue) (rest : Text) :
    skipGap (' ' :: (v.toToml ++ rest)) = v.toToml ++ rest := by
  cases v with
  | flag b => cases b <;> rfl
  | text t =>
    obtain ⟨quote, tail, same, kind⟩ := exists_writeString t
    rw [OptionValue.toToml, same]
    rcases kind with rfl | rfl <;> rfl

/-! ### Keys -/

def IsBareKey (k : Text) : Prop := k ≠ [] ∧ ∀ c ∈ k, isBare c = true

instance (k : Text) : Decidable (IsBareKey k) :=
  decidable_of_decidable_of_iff (p := (!k.isEmpty && k.all isBare) = true) (by simp [IsBareKey])

theorem IsBareKey.exists_cons {k : Text} (bare : IsBareKey k) :
    ∃ c rest, k = c :: rest ∧ isBare c = true := by
  obtain ⟨c, rest, rfl⟩ := List.exists_cons_of_ne_nil bare.1
  exact ⟨c, rest, rfl, bare.2 c List.mem_cons_self⟩

theorem isGap_of_isBare {c : Char} (bare : isBare c = true) : isGap c = false := by
  have space : c ≠ ' ' := Text.ne_of_class bare rfl
  have tab : c ≠ '\t' := Text.ne_of_class bare rfl
  simp [isGap, space, tab]

theorem skipGap_of_head {c : Char} (solid : isGap c = false) (rest : Text) :
    skipGap (c :: rest) = c :: rest := by
  rw [skipGap, List.dropWhile_cons_of_neg (by simp [solid])]

theorem keyPart_append {k : Text} (bare : IsBareKey k) {c : Char} (stop : isBare c = false)
    (rest : Text) : keyPart (k ++ c :: rest) = some (k, c :: rest) := by
  have read : (k ++ c :: rest).takeWhile isBare = k := by
    rw [List.takeWhile_append_of_pos bare.2, List.takeWhile_cons_of_neg (by simp [stop]),
      List.append_nil]
  have left : (k ++ c :: rest).dropWhile isBare = c :: rest := by
    rw [List.dropWhile_append_of_pos bare.2, List.dropWhile_cons_of_neg (by simp [stop])]
  obtain ⟨d, tail, rfl, head⟩ := bare.exists_cons
  rw [List.cons_append, keyPart.eq_3]
  · rw [← List.cons_append, List.span_eq_takeWhile_dropWhile, read, left]
    rfl
  · intro more same
    cases same
    cases head
  · intro more same
    cases same
    cases head

theorem keyFrom_join {path : List Text} (nonempty : path ≠ []) (bare : ∀ k ∈ path, IsBareKey k)
    {c d : Char} {tail rest : Text} (stop : isBare c = false)
    (ends : skipGap (c :: tail) = d :: rest) (point : d ≠ '.') {fuel : Nat}
    (enough : path.length ≤ fuel) :
    keyFrom fuel (Text.join ['.'] path ++ c :: tail) = some (path, d :: rest) := by
  induction path generalizing fuel with
  | nil => exact absurd rfl nonempty
  | cons k path ih =>
    cases fuel with
    | zero => cases enough
    | succ fuel =>
      rw [List.forall_mem_cons] at bare
      obtain ⟨e, more, same, head⟩ := bare.1.exists_cons
      have solid (x : Text) : skipGap (k ++ x) = k ++ x := by
        rw [same, List.cons_append, skipGap_of_head (isGap_of_isBare head)]
      cases path with
      | nil =>
        rw [Text.join_singleton, keyFrom, solid, keyPart_append bare.1 stop]
        simp [ends, point]
      | cons k' path =>
        have later := ih (by simp) bare.2 (Nat.le_of_succ_le_succ enough)
        rw [Text.join_cons_cons, List.append_assoc, List.append_assoc, keyFrom, solid,
          List.singleton_append, keyPart_append bare.1 rfl]
        simp [skipGap_of_head, isGap, later]

/-! ### Lines -/

theorem line_header {path : List Text} (nonempty : path ≠ []) (bare : ∀ k ∈ path, IsBareKey k)
    (short : path.length < depthLimit) (rest : Text) :
    line (writeHeader path ++ rest) = some (.header false path, '\n' :: rest) := by
  have read : key (Text.join ['.'] path ++ ']' :: '\n' :: rest) =
      some (path, ']' :: '\n' :: rest) :=
    keyFrom_join nonempty bare rfl rfl (by decide) (Nat.le_pred_of_lt short)
  obtain ⟨c, tail, same, head⟩ : ∃ c tail, Text.join ['.'] path = c :: tail ∧ c ≠ '[' := by
    obtain ⟨k, path, rfl⟩ := List.exists_cons_of_ne_nil nonempty
    obtain ⟨c, tail, rfl, head⟩ := (bare k List.mem_cons_self).exists_cons
    cases path with
    | nil => exact ⟨c, tail, Text.join_singleton .., Text.ne_of_class head rfl⟩
    | cons k' path => exact ⟨c, _, Text.join_cons_cons .., Text.ne_of_class head rfl⟩
  have single : line (writeHeader path ++ rest) =
      headerRest false (Text.join ['.'] path ++ ']' :: '\n' :: rest) := by
    rw [writeHeader, List.cons_append, List.append_assoc, same]
    refine line.eq_2 _ fun more twice => head ?_
    exact (List.cons.inj twice).1
  rw [single, headerRest, read]
  rfl

theorem line_entry {k : Text} (bare : IsBareKey k) (v : OptionValue) (rest : Text) :
    line (writeEntry k v.toToml ++ rest) = some (.entry [k] v.toValue, '\n' :: rest) := by
  have read : key (k ++ ' ' :: '=' :: ' ' :: (v.toToml ++ '\n' :: rest)) =
      some ([k], '=' :: ' ' :: (v.toToml ++ '\n' :: rest)) := by
    have ends : skipGap (' ' :: '=' :: ' ' :: (v.toToml ++ '\n' :: rest)) =
        '=' :: ' ' :: (v.toToml ++ '\n' :: rest) := by simp [skipGap, isGap]
    have enough : [k].length ≤ depthLimit - 1 := (by decide : 1 ≤ depthLimit - 1)
    have whole := keyFrom_join (List.cons_ne_nil k []) (by simpa using bare) rfl ends (by decide)
      enough
    rwa [Text.join_singleton] at whole
  have single : line (writeEntry k v.toToml ++ rest) =
      entryLine (writeEntry k v.toToml ++ rest) := by
    obtain ⟨c, tail, rfl, head⟩ := bare.exists_cons
    have other : c ≠ '[' := Text.ne_of_class head rfl
    refine line.eq_3 _ (fun more same => other ?_) fun more same => other ?_
    · exact (List.cons.inj same).1
    · exact (List.cons.inj same).1
  have value := value_toToml v rest
  have gap : skipGap (' ' :: (v.toToml ++ '\n' :: rest)) = v.toToml ++ '\n' :: rest :=
    skipGap_toToml v _
  rw [single, entryLine]
  simp [writeEntry, read, skip, gap, value]

/-- What the lines of a text are, with any fuel that exceeds its length. -/
def HasLines (t : Text) (ls : List Line) : Prop :=
  ∀ fuel, t.length < fuel → linesFrom fuel t = some ls

theorem hasLines_nil : HasLines [] [] := by
  intro fuel enough
  cases fuel with
  | zero => cases enough
  | succ fuel => rfl

theorem HasLines.blank {t : Text} {ls : List Line} (h : HasLines t ls) :
    HasLines ('\n' :: t) ls := by
  intro fuel enough
  cases fuel with
  | zero => cases enough
  | succ fuel => exact h fuel (Nat.lt_of_succ_lt_succ enough)

theorem HasLines.cons {t : Text} {ls : List Line} (h : HasLines t ls) {w : Text} {l : Line}
    {c : Char} (starts : w.head? = some c) (solid : isPlain c = true ∧ isGap c = false ∧ c ≠ '#')
    (read : line (w ++ t) = some (l, '\n' :: t)) : HasLines (w ++ t) (l :: ls) := by
  obtain ⟨w, rfl⟩ := List.head?_eq_some_iff.1 starts
  obtain ⟨plain, gap, mark⟩ := solid
  intro fuel enough
  cases fuel with
  | zero => cases enough
  | succ fuel =>
    have later := h fuel (by simp at enough; omega)
    rw [List.cons_append] at read ⊢
    have here : lineEnd? (c :: (w ++ t)) = none := by
      simp [lineEnd?, skipGap_of_head gap, mark, lineBreak?_of_isPlain plain]
    have after : lineEnd? ('\n' :: t) = some t := rfl
    simp [linesFrom, here, skipGap_of_head gap, read, after, later]

theorem isPlain_of_isBare {c : Char} (bare : isBare c = true) : isPlain c = true := by
  have low : ∀ n < 0x20, isBare (Char.ofNat n) = false := by decide
  have delete : isBare (Char.ofNat 0x7F) = false := by decide
  have code : c.toNat ≠ 0x7F ∧ ¬ c.toNat < 0x20 := by
    constructor
    · intro same
      rw [← same, Char.ofNat_toNat, bare] at delete
      cases delete
    · intro small
      have control := low c.toNat small
      rw [Char.ofNat_toNat, bare] at control
      cases control
  simp [isPlain]
  omega

theorem HasLines.header {t : Text} {ls : List Line} (h : HasLines t ls) {path : List Text}
    (nonempty : path ≠ []) (bare : ∀ k ∈ path, IsBareKey k) (short : path.length < depthLimit) :
    HasLines (writeHeader path ++ t) (.header false path :: ls) :=
  h.cons rfl ⟨rfl, rfl, by decide⟩ (line_header nonempty bare short t)

theorem HasLines.entry {t : Text} {ls : List Line} (h : HasLines t ls) {k : Text}
    (bare : IsBareKey k) (v : OptionValue) :
    HasLines (writeEntry k v.toToml ++ t) (.entry [k] v.toValue :: ls) := by
  obtain ⟨c, tail, same, head⟩ := bare.exists_cons
  refine h.cons (by rw [same]; rfl) ⟨isPlain_of_isBare head, isGap_of_isBare head, ?_⟩
    (line_entry bare v t)
  exact Text.ne_of_class head rfl

/-! ### Sections -/

abbrev SectionFields := List Text × List (Text × OptionValue)

def Table.ofFields (fields : List (Text × OptionValue)) : Table :=
  fields.map fun field => (field.1, field.2.toValue)

namespace SectionFields

/-- A section that is written with keys that need no quotes. -/
structure Bare (s : SectionFields) : Prop where
  nonempty : s.1 ≠ []
  short : s.1.length < depthLimit
  path : ∀ k ∈ s.1, IsBareKey k
  keys : ∀ field ∈ s.2, IsBareKey field.1

def text (s : SectionFields) : Text := Configuration.sectionText s.1 s.2

def entries (s : SectionFields) : List (List Text × Value) := (Table.ofFields s.2).entries

def lines (s : SectionFields) : List Line :=
  .header false s.1 :: s.entries.map fun entry => .entry entry.1 entry.2

theorem hasLines_entries {fields : List (Text × OptionValue)}
    (keys : ∀ field ∈ fields, IsBareKey field.1) {t : Text} {ls : List Line} (h : HasLines t ls) :
    HasLines (fields.flatMap (fun field => writeEntry field.1 field.2.toToml) ++ t)
      (fields.map (fun field => Line.entry [field.1] field.2.toValue) ++ ls) := by
  induction fields with
  | nil => exact h
  | cons field fields ih =>
    rw [List.forall_mem_cons] at keys
    rw [List.flatMap_cons, List.append_assoc]
    exact (ih keys.2).entry keys.1 field.2

theorem hasLines {s : SectionFields} (bare : s.Bare) {t : Text} {ls : List Line}
    (h : HasLines t ls) : HasLines (s.text ++ t) (s.lines ++ ls) := by
  have whole := (hasLines_entries bare.keys h).header bare.nonempty bare.path bare.short
  simpa [text, lines, entries, Table.ofFields, Table.entries, Configuration.sectionText,
    Function.comp_def] using whole

def document (ss : List SectionFields) : Text := Text.join ['\n'] (ss.map text)

theorem hasLines_document {ss : List SectionFields} (bare : ∀ s ∈ ss, s.Bare) :
    HasLines (document ss) (ss.flatMap lines) := by
  induction ss with
  | nil => exact hasLines_nil
  | cons s ss ih =>
    rw [List.forall_mem_cons] at bare
    cases ss with
    | nil =>
      have single := hasLines bare.1 hasLines_nil
      simpa [document] using single
    | cons s' ss =>
      have both := hasLines bare.1 (ih bare.2).blank
      simpa [document, Text.join_cons_cons] using both

theorem sections_lines (s : SectionFields) (ls : List Line) (starts : (sections ls).1 = []) :
    sections (s.lines ++ ls) = ([], ⟨false, s.1, s.entries⟩ :: (sections ls).2) := by
  have below (entries : List (List Text × Value)) :
      sections (entries.map (fun entry => Line.entry entry.1 entry.2) ++ ls) =
        (entries, (sections ls).2) := by
    induction entries with
    | nil => exact Prod.ext starts rfl
    | cons entry entries ih => rw [List.map_cons, List.cons_append, sections, ih]
  rw [lines, List.cons_append, sections, below]

theorem sections_document (ss : List SectionFields) :
    sections (ss.flatMap lines) = ([], ss.map fun s => ⟨false, s.1, s.entries⟩) := by
  induction ss with
  | nil => rfl
  | cons s ss ih =>
    rw [List.flatMap_cons, sections_lines s _ (by rw [ih]), ih]
    rfl

theorem ofText?_document {ss : List SectionFields} (bare : ∀ s ∈ ss, s.Bare) :
    Table.ofText? (document ss) =
      ss.foldlM (fun (table : Table) s => table.openSection false s.entries s.1) [] := by
  have unmarked : (document ss).head? ≠ some '\uFEFF' := by
    match ss with
    | [] => exact nofun
    | [s] =>
      rw [document, List.map_singleton, Text.join_singleton]
      exact ne_of_beq_false rfl
    | s :: s' :: ss =>
      rw [document, List.map_cons, List.map_cons, Text.join_cons_cons]
      exact ne_of_beq_false rfl
  have read := hasLines_document bare _ (Nat.lt_succ_self _)
  simp only [Table.ofText?, if_neg unmarked]
  rw [read, Option.bind_some, Table.ofLines, sections_document]
  exact List.foldlM_map ..

end SectionFields

end Toml

end Pipework
