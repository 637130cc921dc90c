import Mathlib.Data.List.TakeWhile
import Pipework.Shell.Arguments

/-!
The flags, values and positional words of a stage.
-/

set_option autoImplicit false
set_option relaxedAutoImplicit false

namespace Pipework.Shell.Arguments

/-! ## One word

What one word in front adds to the arguments of a stage.
-/

theorem scan_positional (isSwitch : Char → Bool) {word : Text} (h : isHyphenated word = false)
    (rest : List Text) :
    scan isSwitch (word :: rest) = (scan isSwitch rest).map (addPositional word) := by
  cases rest with
  | nil => simp [scan, h]
  | cons next others => simp [scan.eq_3, h]

private theorem prefix_flag {name : Char} (h : name ≠ '-') :
    List.isPrefixOf ['-', '-'] ['-', name] = false := by
  simp [List.isPrefixOf, Ne.symm h]

theorem scan_switch {isSwitch : Char → Bool} {name : Char} (h : name ≠ '-')
    (switch : isSwitch name = true) (rest : List Text) :
    scan isSwitch (['-', name] :: rest) =
      (scan isSwitch rest).map (addFlags [(name, .switch)]) := by
  cases rest with
  | nil => simp [scan, isHyphenated, prefix_flag h, h, cluster, switch, Except.map]
  | cons next others => simp [scan.eq_3, isHyphenated, prefix_flag h, h, cluster, switch]

theorem scan_value {isSwitch : Char → Bool} {name : Char} (h : name ≠ '-')
    (switch : isSwitch name = false) {word : Text} (hyphen : isHyphenated word = false)
    (rest : List Text) :
    scan isSwitch (['-', name] :: word :: rest) =
      (scan isSwitch rest).map (addFlags [(name, .value (unquoteValue word))]) := by
  have flag : isHyphenated ['-', name] = true := rfl
  have taken : Option.filter (!isHyphenated ·) (some word) = some word := by
    simp [Option.filter, hyphen]
  simp [scan.eq_3, flag, prefix_flag h, h, cluster, switch, taken]

/-! ## Neighbours

What becomes of a word in front of the terminator depends on the word itself and on the word
directly before it, and what a cluster contributes on the cluster and the word directly behind it
(`scan_by_neighbours`).
-/

/-- The word behind which every word is positional. -/
def terminator : Text := ['-', '-']

/-- The start of an option with a name of several letters. -/
def isLong (word : Text) : Bool := terminator.isPrefixOf word && word != terminator

/-- A word between its neighbours. -/
structure Place where
  before : Option Text
  word : Text
  after : Option Text

/-- The words, each between its neighbours; `before` stands in front of the first one. -/
def places (before : Option Text) (words : List Text) : List Place :=
  words.mapIdx fun i word => ⟨if i = 0 then before else words[i - 1]?, word, words[i + 1]?⟩

def optionPlaces (before : Option Text) (words : List Text) : List Place :=
  (places before words).takeWhile (·.word != terminator)

def operands (words : List Text) : List Text := (words.dropWhile (· != terminator)).drop 1

variable (isSwitch : Char → Bool)

/-- Whether a word is the value of a flag of the word before it: that one is a cluster with a
character that is no switch. -/
def isTaken (before : Option Text) (word : Text) : Bool :=
  !isHyphenated word && before.any fun w => isHyphenated w && w.tail.any (!isSwitch ·)

namespace Place

def isCluster (p : Place) : Bool := isHyphenated p.word

def isValue (p : Place) : Bool := Arguments.isTaken isSwitch p.before p.word

def isPositional (p : Place) : Bool := !isHyphenated p.word && !p.isValue isSwitch

/-- What a cluster contributes. In front of a value these are the switches up to its first other
character, which has the value; otherwise all its switches. -/
def contribution (p : Place) : List (Char × FlagArgument) :=
  match p.after.filter (Arguments.isTaken isSwitch (some p.word)) with
  | some value =>
    (p.word.tail.takeWhile isSwitch).map (·, .switch) ++
      (p.word.tail.find? (!isSwitch ·)).toList.map (·, .value (unquoteValue value))
  | none => (p.word.tail.filter isSwitch).map (·, .switch)

end Place

def clusters (before : Option Text) (words : List Text) : List Place :=
  (optionPlaces before words).filter Place.isCluster

def takenWords (before : Option Text) (words : List Text) : List Text :=
  ((optionPlaces before words).filter (·.isValue isSwitch)).map Place.word

/-- The positional words in front of the terminator, and all words behind it. -/
def positionalWords (before : Option Text) (words : List Text) : List Text :=
  ((optionPlaces before words).filter (·.isPositional isSwitch)).map Place.word ++ operands words

/-- The arguments that the words make by what stands next to each. -/
def gathered (before : Option Text) (words : List Text) : Arguments where
  positionals := (positionalWords isSwitch before words).map fun word => ⟨word, unquote word⟩
  flags := (clusters before words).flatMap (·.contribution isSwitch)

def valuesOf (flags : List (Char × FlagArgument)) : List Text :=
  flags.filterMap fun flag =>
    match flag.2 with
    | .switch => none
    | .value t => some t

variable {isSwitch : Char → Bool} {before : Option Text} {word : Text} {words : List Text}

/-! ### Places -/

theorem places_cons (before : Option Text) (word : Text) (words : List Text) :
    places before (word :: words) = ⟨before, word, words.head?⟩ :: places (some word) words := by
  have shifted (i : Nat) : (word :: words)[i]? = if i = 0 then some word else words[i - 1]? := by
    cases i <;> simp
  simp [places, List.mapIdx_cons, shifted, List.head?_eq_getElem?]

theorem optionPlaces_cons (h : word ≠ terminator) :
    optionPlaces before (word :: words) =
      ⟨before, word, words.head?⟩ :: optionPlaces (some word) words := by
  simp [optionPlaces, places_cons, h]

theorem optionPlaces_terminator : optionPlaces before (terminator :: words) = [] := by
  simp [optionPlaces, places_cons]

theorem operands_cons (h : word ≠ terminator) : operands (word :: words) = operands words := by
  simp [operands, h]

theorem operands_terminator : operands (terminator :: words) = words := by
  simp [operands]

theorem map_word_optionPlaces (before : Option Text) (words : List Text) :
    (optionPlaces before words).map Place.word = words.takeWhile (· != terminator) := by
  induction words generalizing before with
  | nil => rfl
  | cons word words ih =>
    by_cases h : word = terminator
    · simp [h, optionPlaces_terminator]
    · simp [optionPlaces_cons h, ih, h]

/-! ### Clusters -/

theorem isTaken_of_not_hyphenated (h : isHyphenated word = false) (next : Text) :
    isTaken isSwitch (some word) next = false := by
  simp [isTaken, h]

theorem isTaken_hyphenated (h : isHyphenated word = true) (before : Option Text) :
    isTaken isSwitch before word = false := by
  simp [isTaken, h]

theorem cluster_some (h : isHyphenated word = false) (names : Text) :
    cluster isSwitch (some word) names =
      ((names.takeWhile isSwitch).map (·, .switch) ++
        (names.find? (!isSwitch ·)).toList.map (·, .value (unquoteValue word)),
        names.any (!isSwitch ·)) := by
  induction names with
  | nil => rfl
  | cons name names ih =>
    cases switch : isSwitch name <;> simp [cluster, switch, ih, Option.filter, h]

theorem cluster_none {next : Option Text} (h : next.all isHyphenated = true) (names : Text) :
    cluster isSwitch next names = ((names.filter isSwitch).map (·, .switch), false) := by
  have nothing : next.filter (!isHyphenated ·) = none := by
    cases next with
    | none => rfl
    | some word => simpa [Option.filter] using h
  induction names with
  | nil => rfl
  | cons name names ih =>
    cases switch : isSwitch name <;> simp [cluster, switch, ih, nothing]

theorem cluster_eq (h : isHyphenated word = true) (before next : Option Text) :
    cluster isSwitch next word.tail =
      (Place.contribution isSwitch ⟨before, word, next⟩,
        next.any (isTaken isSwitch (some word))) := by
  cases next with
  | none => exact cluster_none rfl word.tail
  | some value =>
    cases hyphen : isHyphenated value with
    | true =>
      have passed : (some value).all isHyphenated = true := hyphen
      simp [cluster_none passed, Place.contribution, isTaken_hyphenated hyphen, Option.filter]
    | false =>
      cases taken : word.tail.any (!isSwitch ·) with
      | true =>
        simp [cluster_some hyphen, Place.contribution, isTaken, h, hyphen, taken, Option.filter]
      | false =>
        have switches : ∀ c ∈ word.tail, isSwitch c = true := by simpa using taken
        have none : word.tail.find? (!isSwitch ·) = none := by simpa using switches
        have all : word.tail.takeWhile isSwitch = word.tail.filter isSwitch := by
          rw [List.takeWhile_eq_self_iff.2 switches, List.filter_eq_self.2 switches]
        simp [cluster_some hyphen, Place.contribution, isTaken, h, hyphen, taken, Option.filter,
          none, all]

/-! ### The scan -/

variable (isSwitch) in
def untaken (before : Option Text) (words : List Text) : List Text :=
  if words.head?.any (isTaken isSwitch before) then words.tail else words

theorem untaken_of_not_hyphenated (h : isHyphenated word = false) (words : List Text) :
    untaken isSwitch (some word) words = words := by
  have nothing : words.head?.any (isTaken isSwitch (some word)) = false := by
    cases words with
    | nil => rfl
    | cons next words => exact isTaken_of_not_hyphenated h next
  simp [untaken, nothing]

theorem scan_cluster (hyphen : isHyphenated word = true) (single : word ≠ terminator)
    (short : isLong word = false) (before : Option Text) (words : List Text) :
    scan isSwitch (word :: words) =
      (scan isSwitch (untaken isSwitch (some word) words)).map
        (addFlags (Place.contribution isSwitch ⟨before, word, words.head?⟩)) := by
  have single' : word ≠ ['-', '-'] := single
  have unmarked : List.isPrefixOf ['-', '-'] word = false := by
    rw [isLong, bne_iff_ne.2 single, Bool.and_true] at short
    exact short
  cases words with
  | nil => simp [scan, hyphen, single', unmarked, cluster_eq hyphen before, untaken, Except.map]
  | cons next words =>
    cases taken : isTaken isSwitch (some word) next <;>
      simp [scan.eq_3, hyphen, single', unmarked, cluster_eq hyphen before, untaken, taken]

theorem gathered_terminator (before : Option Text) (words : List Text) :
    gathered isSwitch before (terminator :: words) = positionalOnly words := by
  have all : positionalOnly words = ⟨words.map fun word => ⟨word, unquote word⟩, []⟩ := by
    induction words with
    | nil => rfl
    | cons word words ih =>
      rw [positionalOnly] at ih ⊢
      rw [List.foldr_cons, ih]
      rfl
  simp [gathered, positionalWords, clusters, optionPlaces_terminator, operands_terminator, all]

theorem gathered_taken (taken : isTaken isSwitch before word = true) (words : List Text) :
    gathered isSwitch before (word :: words) = gathered isSwitch (some word) words := by
  have plain : isHyphenated word = false := by
    cases hyphen : isHyphenated word with
    | false => rfl
    | true => rw [isTaken_hyphenated hyphen] at taken; cases taken
  have single : word ≠ terminator := by rintro rfl; cases plain
  simp [gathered, positionalWords, clusters, optionPlaces_cons single, operands_cons single,
    Place.isPositional, Place.isValue, Place.isCluster, taken, plain]

theorem gathered_positional (plain : isHyphenated word = false)
    (free : isTaken isSwitch before word = false) (words : List Text) :
    gathered isSwitch before (word :: words) =
      addPositional word (gathered isSwitch (some word) words) := by
  have single : word ≠ terminator := by rintro rfl; cases plain
  simp [gathered, positionalWords, clusters, optionPlaces_cons single, operands_cons single,
    Place.isPositional, Place.isValue, Place.isCluster, free, plain, addPositional]

theorem gathered_cluster (hyphen : isHyphenated word = true) (single : word ≠ terminator)
    (words : List Text) :
    gathered isSwitch before (word :: words) =
      addFlags (Place.contribution isSwitch ⟨before, word, words.head?⟩)
        (gathered isSwitch (some word) words) := by
  simp [gathered, positionalWords, clusters, optionPlaces_cons single, operands_cons single,
    Place.isPositional, Place.isCluster, hyphen, addFlags]

variable (isSwitch) in
def ruled (before : Option Text) (words : List Text) : Except StageError Arguments :=
  match (words.takeWhile (· != terminator)).find? isLong with
  | some word => .error (.longOption word)
  | none => .ok (gathered isSwitch before words)

theorem ruled_cons (single : word ≠ terminator) (short : isLong word = false)
    {add : Arguments → Arguments}
    (added : gathered isSwitch before (word :: words) = add (gathered isSwitch (some word) words)) :
    ruled isSwitch before (word :: words) = (ruled isSwitch (some word) words).map add := by
  have front : ((word :: words).takeWhile (· != terminator)).find? isLong =
      (words.takeWhile (· != terminator)).find? isLong := by
    simp [single, short]
  rw [ruled, ruled, front]
  cases (words.takeWhile (· != terminator)).find? isLong with
  | some long => rfl
  | none => exact congrArg Except.ok added

theorem isLong_of_not_hyphenated (plain : isHyphenated word = false) : isLong word = false := by
  cases word with
  | nil => rfl
  | cons c t =>
    have other : c ≠ '-' := by simpa [isHyphenated] using plain
    simp [isLong, terminator, List.isPrefixOf, Ne.symm other]

-- What stands in front of the words may take the first one. With that said in the statement, the
-- induction goes word by word, although the scan steps over a cluster and its value at once.
theorem scan_untaken (before : Option Text) (words : List Text) :
    scan isSwitch (untaken isSwitch before words) = ruled isSwitch before words := by
  induction words generalizing before with
  | nil => rfl
  | cons word words ih =>
    cases hyphen : isHyphenated word with
    | false =>
      have single : word ≠ terminator := by rintro rfl; cases hyphen
      have short := isLong_of_not_hyphenated hyphen
      have rest := ih (some word)
      rw [untaken_of_not_hyphenated hyphen] at rest
      cases taken : isTaken isSwitch before word with
      | true =>
        have start : untaken isSwitch before (word :: words) = words := by simp [untaken, taken]
        have same : ruled isSwitch before (word :: words) =
            (ruled isSwitch (some word) words).map id :=
          ruled_cons single short (gathered_taken taken words)
        rw [start, rest, same]
        cases ruled isSwitch (some word) words <;> rfl
      | false =>
        have start : untaken isSwitch before (word :: words) = word :: words := by
          simp [untaken, taken]
        rw [start, scan_positional isSwitch hyphen, rest,
          ruled_cons single short (gathered_positional hyphen taken words)]
    | true =>
      have start : untaken isSwitch before (word :: words) = word :: words := by
        simp [untaken, isTaken_hyphenated hyphen]
      rw [start]
      by_cases single : word = terminator
      · subst single
        have stop : scan isSwitch (terminator :: words) = .ok (positionalOnly words) := by
          cases words <;> rfl
        rw [stop, ruled, gathered_terminator]
        rfl
      · cases long : isLong word with
        | true =>
          have marked : List.isPrefixOf ['-', '-'] word = true := (Bool.and_eq_true _ _ ▸ long).1
          have refused : scan isSwitch (word :: words) = .error (.longOption word) := by
            have single' : word ≠ ['-', '-'] := single
            cases words <;> simp [scan, hyphen, single', marked]
          simp [refused, ruled, single, long]
        | false =>
          rw [scan_cluster hyphen single long before, ih,
            ruled_cons single long (gathered_cluster hyphen single words)]

theorem scan_eq_ruled (isSwitch : Char → Bool) (words : List Text) :
    scan isSwitch words = ruled isSwitch none words := by
  have free : untaken isSwitch none words = words := by cases words <;> simp [untaken, isTaken]
  rw [← scan_untaken, free]

/-! ### Every word once -/

theorem takeWhile_append_operands (words : List Text) :
    words.takeWhile (· != terminator) ++ (if terminator ∈ words then [terminator] else []) ++
      operands words = words := by
  induction words with
  | nil => rfl
  | cons word words ih =>
    by_cases h : word = terminator
    · simp [h, operands_terminator]
    · simpa [h, operands_cons h, Ne.symm h] using ih

private theorem perm_places (isSwitch : Char → Bool) (ps : List Place) :
    (ps.filter Place.isCluster ++ (ps.filter (·.isValue isSwitch) ++
      ps.filter (·.isPositional isSwitch))).Perm ps := by
  have values : (ps.filter (!·.isCluster)).filter (·.isValue isSwitch) =
      ps.filter (·.isValue isSwitch) := by
    rw [List.filter_filter]
    refine List.filter_congr fun p _ => ?_
    cases h : p.isCluster with
    | false => simp
    | true =>
      have untaken : p.isValue isSwitch = false := isTaken_hyphenated h p.before
      simp [untaken]
  have others : (ps.filter (!·.isCluster)).filter (!·.isValue isSwitch) =
      ps.filter (·.isPositional isSwitch) := by
    rw [List.filter_filter]
    exact List.filter_congr fun p _ => Bool.and_comm _ _
  have plain := List.filter_append_perm (·.isValue isSwitch) (ps.filter (!·.isCluster))
  rw [values, others] at plain
  exact (plain.append_left _).trans (List.filter_append_perm Place.isCluster ps)

theorem perm_words (isSwitch : Char → Bool) (words : List Text) :
    ((clusters none words).map Place.word ++ takenWords isSwitch none words ++
      positionalWords isSwitch none words ++ if terminator ∈ words then [terminator] else []).Perm
        words := by
  have front := (perm_places isSwitch (optionPlaces none words)).map Place.word
  rw [List.map_append, List.map_append, map_word_optionPlaces] at front
  have all := (front.append_right (if terminator ∈ words then [terminator] else [])).append_right
    (operands words)
  rw [takeWhile_append_operands] at all
  refine List.Perm.trans ?_ all
  simp only [clusters, takenWords, positionalWords, List.append_assoc]
  refine ((List.perm_append_comm.append_left _).append_left _).append_left _

theorem valuesOf_contribution (isSwitch : Char → Bool) (before next : Option Text) (word : Text) :
    valuesOf (Place.contribution isSwitch ⟨before, word, next⟩) =
      ((next.filter (isTaken isSwitch (some word))).map unquoteValue).toList := by
  rw [Place.contribution]
  cases taken : next.filter (isTaken isSwitch (some word)) with
  | none => simp [valuesOf]
  | some value =>
    have demanded : isTaken isSwitch (some word) value = true :=
      (Option.filter_eq_some_iff.1 taken).2
    simp only [isTaken, Option.any_some, Bool.and_eq_true, List.any_eq_true] at demanded
    obtain ⟨name, found⟩ := Option.isSome_iff_exists.1 (List.find?_isSome.2 demanded.2.2)
    simp [found, valuesOf]

theorem takenWords_eq (before : Option Text) (words : List Text) :
    (takenWords isSwitch before words).map unquoteValue =
      ((words.head?.filter (isTaken isSwitch before)).map unquoteValue).toList ++
        valuesOf ((clusters before words).flatMap (·.contribution isSwitch)) := by
  induction words generalizing before with
  | nil => rfl
  | cons word words ih =>
    by_cases single : word = terminator
    · have free : isTaken isSwitch before terminator = false := isTaken_hyphenated rfl before
      simp [single, takenWords, clusters, optionPlaces_terminator, free, Option.filter, valuesOf]
    · have rest := ih (some word)
      cases hyphen : isHyphenated word with
      | true =>
        -- The value of a cluster is the next word, which is the head of the rest.
        have free : isTaken isSwitch before word = false := isTaken_hyphenated hyphen before
        have own := valuesOf_contribution isSwitch before words.head? word
        simp only [takenWords, clusters, optionPlaces_cons single, Place.isValue, Place.isCluster,
          List.filter_cons, free, hyphen] at rest ⊢
        simp only [valuesOf] at own rest ⊢
        simpa [own, Option.filter, free] using rest
      | false =>
        have nothing : words.head?.filter (isTaken isSwitch (some word)) = none := by
          cases words <;> simp [isTaken_of_not_hyphenated hyphen, Option.filter]
        rw [nothing] at rest
        simp only [takenWords, clusters, optionPlaces_cons single, Place.isValue, Place.isCluster,
          List.filter_cons, hyphen] at rest ⊢
        cases taken : isTaken isSwitch before word <;> simpa [Option.filter, taken] using rest

theorem valuesOf_gathered (isSwitch : Char → Bool) (words : List Text) :
    valuesOf (gathered isSwitch none words).flags =
      (takenWords isSwitch none words).map unquoteValue := by
  have free : words.head?.filter (isTaken isSwitch none) = none := by
    cases words <;> simp [isTaken, Option.filter]
  rw [takenWords_eq, free]
  rfl

theorem flag?_eq_some_iff {args : Arguments} {name : Char} {argument : FlagArgument} :
    args.flag? name = some argument ↔
      ∃ earlier later, args.flags = earlier ++ (name, argument) :: later ∧
        ∀ flag ∈ later, flag.1 ≠ name := by
  rw [flag?, Option.map_eq_some_iff]
  constructor
  · rintro ⟨⟨found, _⟩, last, rfl⟩
    obtain ⟨same, before, after, split, others⟩ := List.find?_eq_some_iff_append.1 last
    obtain rfl : found = name := by simpa using same
    refine ⟨after.reverse, before.reverse, ?_, fun flag mem => ?_⟩
    · rw [← List.reverse_reverse args.flags, split]
      simp
    · simpa using others flag (List.mem_reverse.1 mem)
  · rintro ⟨earlier, later, split, others⟩
    refine ⟨(name, argument), ?_, rfl⟩
    rw [split, List.reverse_append, List.reverse_cons, List.append_assoc, List.find?_append,
      List.find?_eq_none.2 fun flag mem => by simpa using others flag (List.mem_reverse.1 mem)]
    simp

/-- The scan fails for the first long option in front of the terminator, and for nothing else.
Otherwise the words are sorted by their neighbours: a word is a value exactly when it is taken by
the word before it, every other word in front of the terminator is a cluster or positional, and
behind it all are. Every word is used once, and the last contribution for a flag counts. -/
theorem scan_by_neighbours (isSwitch : Char → Bool) (words : List Text) :
    (∀ e, scan isSwitch words = .error e ↔
      ∃ word, (words.takeWhile (· != terminator)).find? isLong = some word ∧
        e = .longOption word) ∧
    ((∀ word ∈ words.takeWhile (· != terminator), isLong word = false) →
      ∃ args, scan isSwitch words = .ok args ∧
        args.positionals =
          (positionalWords isSwitch none words).map (fun word => ⟨word, unquote word⟩) ∧
        args.flags = (clusters none words).flatMap (·.contribution isSwitch) ∧
        ((clusters none words).map Place.word ++ takenWords isSwitch none words ++
          args.positionals.map Positional.raw ++
            if terminator ∈ words then [terminator] else []).Perm words ∧
        valuesOf args.flags = (takenWords isSwitch none words).map unquoteValue ∧
        ∀ name argument, args.flag? name = some argument ↔
          ∃ earlier later, args.flags = earlier ++ (name, argument) :: later ∧
            ∀ flag ∈ later, flag.1 ≠ name) := by
  rw [scan_eq_ruled, ruled]
  constructor
  · intro e
    cases (words.takeWhile (· != terminator)).find? isLong <;> simp [eq_comm]
  · intro short
    have unfound : (words.takeWhile (· != terminator)).find? isLong = none := by
      simpa using short
    have raw : (gathered isSwitch none words).positionals.map Positional.raw =
        positionalWords isSwitch none words := by
      simp [gathered, Function.comp_def]
    refine ⟨gathered isSwitch none words, by rw [unfound], rfl, rfl, ?_,
      valuesOf_gathered isSwitch words, fun name argument => flag?_eq_some_iff⟩
    rw [raw]
    exact perm_words isSwitch words

/-- A cluster with a value behind a switch, one whose flag finds no value, and an operand that
looks like a long option. -/
theorem scan_by_neighbours_mixed :
    ∃ args, scan (fun c => c == 'i' || c == 'r')
        ["-ik".toList, "'v w'".toList, "x".toList, "-n".toList, "-ri".toList, terminator,
          "--long".toList] = .ok args ∧
      args.positionals = [⟨"x".toList, "x".toList⟩, ⟨"--long".toList, "--long".toList⟩] ∧
      args.flags = [('i', .switch), ('k', .value "v w".toList), ('r', .switch), ('i', .switch)] ∧
      args.flag? 'k' = some (.value "v w".toList) := by
  obtain ⟨args, ok, positionals, flags, -, -, last⟩ :=
    (scan_by_neighbours (fun c => c == 'i' || c == 'r')
      ["-ik".toList, "'v w'".toList, "x".toList, "-n".toList, "-ri".toList, terminator,
        "--long".toList]).2 (by decide)
  have flags' : args.flags =
      [('i', .switch), ('k', .value "v w".toList), ('r', .switch), ('i', .switch)] :=
    flags.trans (by decide)
  refine ⟨args, ok, positionals.trans (by decide), flags', (last 'k' _).2 ?_⟩
  exact ⟨[('i', .switch)], [('r', .switch), ('i', .switch)], flags', by decide⟩

end Pipework.Shell.Arguments
