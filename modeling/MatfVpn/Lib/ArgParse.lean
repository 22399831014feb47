/-
# Command-line options

The parsing of `argparse.ArgumentParser` for parsers with options only: every option but
`-h` is a long one and takes one value, or none and stores true.  A long option may be
abbreviated, and its value may follow it or be joined to it by `=`.

`Accepts` says which lists of arguments are accepted, by the uses of options they consist
of, and what they store.

* `parse_eq_ok_iff` : the parser accepts these lists, and stores this;
* `parse_eq_help_iff` : the lists for which it prints its help;
* `classify_of_not_dash`, `classify_exact`, `classify_joined` : how arguments are read.
-/
import Mathlib.Data.List.Basic

/-- An argument of a command line. -/
abbrev Argument := List Char

/-- What an option does to the stored values `σ`. -/
inductive ArgAction (σ : Type) where
  /-- Convert and store the value of the option. -/
  | store (convert : Argument → Except String (σ → σ))
  /-- Store that the option is there. -/
  | storeTrue (set : σ → σ)
  /-- Print the help, and exit. -/
  | help

/-- A parser: its option strings in the order they were added, and the characters that are
digits. -/
structure ArgParser (σ : Type) where
  options : List (Argument × ArgAction σ)
  isDigit : Char → Bool

/-- The errors of a parser. -/
inductive ArgError where
  | ambiguous (argument : Argument) (matching : List Argument)
  | expectedOneArgument (option : Argument)
  | ignoredExplicitArgument (option text : Argument)
  | invalidValue (option : Argument) (message : String) (value : Argument)
  | unrecognized (arguments : List Argument)

/-- How a parser exits: with an error, or after the help. -/
inductive ArgExit where
  | error (e : ArgError)
  | help

/-- How an argument is read: as an option with what is joined to it, and whether by `=`. -/
inductive ArgKind (σ : Type) where
  | positional
  | option (name : Argument) (action : ArgAction σ) (explicit : Option (Bool × Argument))
  | unknown
  | ambiguous (matching : List Argument)

namespace ArgParser

variable {σ : Type}

/-! ## Reading an argument -/

/-- The regular expression of negative numbers, `^-\d+$|^-\d*\.\d+$`, after the minus. -/
def isNegativeNumber (parser : ArgParser σ) (text : Argument) : Bool :=
  -- `$` matches before a line feed at the end
  let text := if text.getLast? = some '\n' then text.dropLast else text
  let fraction := text.dropWhile parser.isDigit
  (text ≠ [] && fraction = []) ||
    (fraction.head? = some '.' && fraction.tail ≠ [] && fraction.tail.all parser.isDigit)

/-- `argument.partition("=")`, with `none` where there is no `=`. -/
def partitionEquals (argument : Argument) : Argument × Option Argument :=
  (argument.takeWhile (· ≠ '='),
    match argument.dropWhile (· ≠ '=') with
    | [] => none
    | _ :: text => some text)

/-- `_get_option_tuples`: the options that the argument may abbreviate. -/
def optionTuples (parser : ArgParser σ) (argument : Argument) :
    List (Argument × ArgAction σ × Option (Bool × Argument)) :=
  if argument[1]? = some '-' then
    let (abbreviation, text) := partitionEquals argument
    (parser.options.filter fun option => abbreviation.isPrefixOf option.1).map fun option =>
      (option.1, option.2, text.map fun text => (true, text))
  else
    parser.options.filterMap fun option =>
      if option.1 = argument.take 2 then some (option.1, option.2, some (false, argument.drop 2))
      else if argument.isPrefixOf option.1 then some (option.1, option.2, none)
      else none

/-- The action of an option string. -/
def action? (parser : ArgParser σ) (name : Argument) : Option (ArgAction σ) :=
  parser.options.lookup name

/-- The end of `_parse_optional`: the argument may abbreviate an option, and is else a
positional argument or an unknown option. -/
def classifyAbbreviation (parser : ArgParser σ) (argument : Argument) : ArgKind σ :=
  match parser.optionTuples argument with
  | [(name, action, explicit)] => .option name action explicit
  | [] =>
      if parser.isNegativeNumber argument.tail || ' ' ∈ argument then .positional else .unknown
  | matching => .ambiguous (matching.map Prod.fst)

/-- `_parse_optional`. -/
def classify (parser : ArgParser σ) (argument : Argument) : ArgKind σ :=
  if argument.head? ≠ some '-' then .positional
  else
    match parser.action? argument with
    | some action => .option argument action none
    | none =>
        if argument = ['-'] then .positional
        else
          match parser.action? (partitionEquals argument).1, (partitionEquals argument).2 with
          | some action, some text =>
              .option (partitionEquals argument).1 action (some (true, text))
          | _, _ => parser.classifyAbbreviation argument

/-- An argument that does not start with a dash is no option. -/
theorem classify_of_not_dash (parser : ArgParser σ) {argument : Argument}
    (h : argument.head? ≠ some '-') : parser.classify argument = .positional := if_pos h

/-- An option string is its option. -/
theorem classify_exact {parser : ArgParser σ} {name : Argument} {action : ArgAction σ}
    (hdash : name.head? = some '-') (h : parser.action? name = some action) :
    parser.classify name = .option name action none := by
  rw [classify, if_neg (not_not.2 hdash), h]

/-- The parts of a name without `=` and a text joined to it. -/
theorem partitionEquals_append {name : Argument} (hname : '=' ∉ name) (text : Argument) :
    partitionEquals (name ++ '=' :: text) = (name, some text) := by
  have hall : ∀ c ∈ name, decide (c ≠ '=') = true := by
    intro c hc
    rw [decide_eq_true_eq]
    rintro rfl
    exact hname hc
  rw [partitionEquals, List.takeWhile_append_of_pos hall, List.dropWhile_append_of_pos hall,
    List.takeWhile_cons_of_neg (by decide), List.dropWhile_cons_of_neg (by decide),
    List.append_nil]

/-- A text that is joined to an option string is the text of its option. -/
theorem classify_joined {parser : ArgParser σ} {name : Argument} {action : ArgAction σ}
    (hdash : name.head? = some '-') (hname : '=' ∉ name) (h : parser.action? name = some action)
    {text : Argument} (hnone : parser.action? (name ++ '=' :: text) = none) :
    parser.classify (name ++ '=' :: text) = .option name action (some (true, text)) := by
  have hhead : (name ++ '=' :: text).head? = some '-' := by
    rw [List.head?_append, hdash]
    rfl
  have hlong : name ++ '=' :: text ≠ ['-'] := by
    intro heq
    have hmem : '=' ∈ name ++ '=' :: text := List.mem_append_right _ List.mem_cons_self
    rw [heq] at hmem
    exact absurd hmem (by decide)
  rw [classify, if_neg (not_not.2 hhead), hnone]
  simp only [if_neg hlong, partitionEquals_append hname, h]

/-- An argument that is read as an option is one of the parser. -/
theorem mem_options_of_classify {parser : ArgParser σ} {argument name : Argument}
    {action : ArgAction σ} {explicit : Option (Bool × Argument)}
    (h : parser.classify argument = .option name action explicit) :
    (name, action) ∈ parser.options := by
  have hlookup : ∀ {name : Argument} {action : ArgAction σ},
      parser.action? name = some action → (name, action) ∈ parser.options := by
    intro name action hsome
    obtain ⟨before, after, hsplit, -⟩ := List.lookup_eq_some_iff.1 hsome
    rw [hsplit]
    exact List.mem_append_right _ List.mem_cons_self
  have htuples : ∀ t ∈ parser.optionTuples argument, (t.1, t.2.1) ∈ parser.options := by
    intro t ht
    unfold optionTuples at ht
    split at ht
    · obtain ⟨option, hoption, rfl⟩ := List.mem_map.1 ht
      exact (List.mem_filter.1 hoption).1
    · obtain ⟨option, hoption, hsome⟩ := List.mem_filterMap.1 ht
      split at hsome
      · rw [← Option.some.inj hsome]
        exact hoption
      · split at hsome
        · rw [← Option.some.inj hsome]
          exact hoption
        · cases hsome
  unfold classify at h
  split at h
  · cases h
  split at h
  · rename_i hsome
    obtain ⟨rfl, rfl, -⟩ := ArgKind.option.inj h
    exact hlookup hsome
  split at h
  · cases h
  split at h
  · rename_i hsome _
    obtain ⟨rfl, rfl, -⟩ := ArgKind.option.inj h
    exact hlookup hsome
  · unfold classifyAbbreviation at h
    split at h
    · rename_i hone
      obtain ⟨rfl, rfl, -⟩ := ArgKind.option.inj h
      exact htuples _ (hone ▸ List.mem_singleton.2 rfl)
    · split at h
      · cases h
      · cases h
    · cases h

/-! ## Parsing -/

/-- A short option without value, `-h`, with more characters joined to it: they are further
short options, or nothing that is known. -/
def helpCluster : Bool → Argument → ArgExit
  | _, [] => .error (.ignoredExplicitArgument ['-', 'h'] [])
  | true, text => .error (.ignoredExplicitArgument ['-', 'h'] text)
  | false, '-' :: text => .error (.ignoredExplicitArgument ['-', 'h'] ('-' :: text))
  | false, ['h'] => .help
  | false, 'h' :: '=' :: text => .error (.ignoredExplicitArgument ['-', 'h'] text)
  | false, 'h' :: text => helpCluster false text
  | false, _ => .help

/-- The exit of a help option. -/
def exitHelp (name : Argument) : Option (Bool × Argument) → ArgExit
  | none => .help
  | some (joined, text) =>
      if name = ['-', 'h'] then helpCluster joined text
      else .error (.ignoredExplicitArgument name text)

/-- Convert and store a value. -/
def storeValue (name : Argument) (convert : Argument → Except String (σ → σ)) (value : Argument)
    (stored : σ) : Except ArgExit σ :=
  match convert value with
  | .ok set => .ok (set stored)
  | .error message => .error (.error (.invalidValue name message value))

/-- The argument can be the value of an option. -/
def isValue (parser : ArgParser σ) (argument : Argument) : Bool :=
  argument ≠ ['-', '-'] &&
    match parser.classify argument with
    | .positional => true
    | _ => false

/-- The loop of `_parse_known_args`, with the arguments that it does not recognize. -/
def consume (parser : ArgParser σ) :
    List Argument → σ → List Argument → Except ArgExit (σ × List Argument)
  | [], stored, extras => .ok (stored, extras)
  | argument :: rest, stored, extras =>
      if argument = ['-', '-'] then .ok (stored, extras ++ argument :: rest)
      else
        match parser.classify argument with
        | .positional | .unknown => consume parser rest stored (extras ++ [argument])
        | .ambiguous matching => .error (.error (.ambiguous argument matching))
        | .option name .help explicit => .error (exitHelp name explicit)
        | .option _ (.storeTrue set) none => consume parser rest (set stored) extras
        | .option name (.storeTrue _) (some (_, text)) =>
            .error (.error (.ignoredExplicitArgument name text))
        | .option name (.store convert) (some (_, text)) => do
            let stored ← storeValue name convert text stored
            consume parser rest stored extras
        | .option name (.store convert) none =>
            match rest with
            | [] => .error (.error (.expectedOneArgument name))
            | value :: rest =>
                if parser.isValue value then do
                  let stored ← storeValue name convert value stored
                  consume parser rest stored extras
                else .error (.error (.expectedOneArgument name))

/-- The first argument before `--` that may abbreviate several options. -/
def firstAmbiguous? (parser : ArgParser σ) (arguments : List Argument) :
    Option (Argument × List Argument) :=
  (arguments.takeWhile (· ≠ ['-', '-'])).findSome? fun argument =>
    match parser.classify argument with
    | .ambiguous matching => some (argument, matching)
    | _ => none

/-- `parse_args`, with the defaults. -/
def parse (parser : ArgParser σ) (defaults : σ) (arguments : List Argument) :
    Except ArgExit σ :=
  match parser.firstAmbiguous? arguments with
  | some (argument, matching) => .error (.error (.ambiguous argument matching))
  | none => do
      let (stored, extras) ← consume parser arguments defaults []
      if extras ≠ [] then .error (.error (.unrecognized extras)) else .ok stored

/-! ## The accepted lists -/

/-- The list consists of uses of options, and they store this. -/
inductive Accepts (parser : ArgParser σ) : List Argument → (σ → σ) → Prop where
  | nil : Accepts parser [] id
  | flag {argument name : Argument} {set f : σ → σ} {rest : List Argument}
      (hproper : argument ≠ ['-', '-'])
      (hclassify : parser.classify argument = .option name (.storeTrue set) none)
      (hrest : Accepts parser rest f) : Accepts parser (argument :: rest) (f ∘ set)
  | joined {argument name text : Argument} {convert : Argument → Except String (σ → σ)}
      {equals : Bool} {set f : σ → σ} {rest : List Argument} (hproper : argument ≠ ['-', '-'])
      (hclassify : parser.classify argument
        = .option name (.store convert) (some (equals, text)))
      (hconvert : convert text = .ok set) (hrest : Accepts parser rest f) :
      Accepts parser (argument :: rest) (f ∘ set)
  | separate {argument name value : Argument} {convert : Argument → Except String (σ → σ)}
      {set f : σ → σ} {rest : List Argument} (hproper : argument ≠ ['-', '-'])
      (hclassify : parser.classify argument = .option name (.store convert) none)
      (hvalue : parser.isValue value = true)
      (hconvert : convert value = .ok set) (hrest : Accepts parser rest f) :
      Accepts parser (argument :: value :: rest) (f ∘ set)

theorem isValue_iff {parser : ArgParser σ} {argument : Argument} :
    parser.isValue argument = true ↔
      argument ≠ ['-', '-'] ∧ parser.classify argument = .positional := by
  unfold isValue
  cases parser.classify argument <;> simp

/-- Accepted lists can be joined. -/
theorem Accepts.append {parser : ArgParser σ} {a b : List Argument} {f g : σ → σ}
    (ha : Accepts parser a f) (hb : Accepts parser b g) : Accepts parser (a ++ b) (g ∘ f) := by
  induction ha with
  | nil => exact hb
  | flag hproper hclassify _ ih =>
    rw [List.cons_append, ← Function.comp_assoc]
    exact .flag hproper hclassify ih
  | joined hproper hclassify hconvert _ ih =>
    rw [List.cons_append, ← Function.comp_assoc]
    exact .joined hproper hclassify hconvert ih
  | separate hproper hclassify hvalue hconvert _ ih =>
    rw [List.cons_append, List.cons_append, ← Function.comp_assoc]
    exact .separate hproper hclassify hvalue hconvert ih

/-- A list is accepted when each of its arguments is. -/
theorem accepts_of_forall {parser : ArgParser σ} {arguments : List Argument}
    (h : ∀ argument ∈ arguments, ∃ f, Accepts parser [argument] f) :
    ∃ f, Accepts parser arguments f := by
  induction arguments with
  | nil => exact ⟨id, .nil⟩
  | cons argument rest ih =>
    obtain ⟨f, hargument⟩ := h argument List.mem_cons_self
    obtain ⟨g, hrest⟩ := ih fun a ha => h a (List.mem_cons_of_mem _ ha)
    exact ⟨g ∘ f, hargument.append hrest⟩

/-- In an accepted list without positional arguments each argument is accepted alone: none
is the value of the one before it. -/
theorem Accepts.accepts_of_mem {parser : ArgParser σ} {arguments : List Argument} {f : σ → σ}
    (h : Accepts parser arguments f)
    (hnone : ∀ argument ∈ arguments, parser.classify argument ≠ .positional) :
    ∀ argument ∈ arguments, ∃ g, Accepts parser [argument] g := by
  induction h with
  | nil =>
    intro argument hmem
    cases hmem
  | flag hproper hclassify _ ih =>
    intro argument hmem
    rcases List.mem_cons.1 hmem with rfl | hmem
    · exact ⟨_, .flag hproper hclassify .nil⟩
    · exact ih (fun a ha => hnone a (List.mem_cons_of_mem _ ha)) argument hmem
  | joined hproper hclassify hconvert _ ih =>
    intro argument hmem
    rcases List.mem_cons.1 hmem with rfl | hmem
    · exact ⟨_, .joined hproper hclassify hconvert .nil⟩
    · exact ih (fun a ha => hnone a (List.mem_cons_of_mem _ ha)) argument hmem
  | separate _ _ hvalue _ _ _ =>
    exact absurd (isValue_iff.1 hvalue).2
      (hnone _ (List.mem_cons_of_mem _ List.mem_cons_self))

/-- An option that takes a value is not accepted alone. -/
theorem not_accepts_of_store {parser : ArgParser σ} {argument name : Argument}
    {convert : Argument → Except String (σ → σ)} {f : σ → σ}
    (h : parser.classify argument = .option name (.store convert) none) :
    ¬ Accepts parser [argument] f := by
  intro haccepts
  cases haccepts with
  | flag _ hclassify _ =>
    rw [h] at hclassify
    cases hclassify
  | joined _ hclassify _ _ =>
    rw [h] at hclassify
    cases hclassify

/-- An accepted list has no ambiguous argument. -/
theorem Accepts.not_ambiguous {parser : ArgParser σ} {arguments : List Argument} {f : σ → σ}
    (h : Accepts parser arguments f) :
    ∀ argument ∈ arguments, ∀ matching, parser.classify argument ≠ .ambiguous matching := by
  induction h with
  | nil =>
    intro argument hmem
    cases hmem
  | flag _ hclassify _ ih =>
    intro argument hmem matching
    rcases List.mem_cons.1 hmem with rfl | hmem
    · rw [hclassify]
      exact nofun
    · exact ih argument hmem matching
  | joined _ hclassify _ _ ih =>
    intro argument hmem matching
    rcases List.mem_cons.1 hmem with rfl | hmem
    · rw [hclassify]
      exact nofun
    · exact ih argument hmem matching
  | separate _ hclassify hvalue _ _ ih =>
    intro argument hmem matching
    rcases List.mem_cons.1 hmem with rfl | hmem
    · rw [hclassify]
      exact nofun
    rcases List.mem_cons.1 hmem with rfl | hmem
    · rw [(isValue_iff.1 hvalue).2]
      exact nofun
    · exact ih argument hmem matching

/-- An accepted list is consumed. -/
theorem Accepts.consume_eq {parser : ArgParser σ} {arguments : List Argument} {f : σ → σ}
    (h : Accepts parser arguments f) (stored : σ) (extras : List Argument) :
    consume parser arguments stored extras = .ok (f stored, extras) := by
  induction h generalizing stored with
  | nil => rfl
  | flag hproper hclassify _ ih =>
    rw [consume, if_neg hproper, hclassify]
    exact ih _
  | joined hproper hclassify hconvert _ ih =>
    rw [consume, if_neg hproper, hclassify]
    simp only [storeValue, hconvert]
    exact ih _
  | separate hproper hclassify hvalue hconvert _ ih =>
    rw [consume, if_neg hproper, hclassify]
    simp only [storeValue, hconvert, hvalue, if_true]
    exact ih _

/-- A value that was stored has been converted. -/
theorem storeValue_eq_ok {name : Argument} {convert : Argument → Except String (σ → σ)}
    {value : Argument} {stored stored' : σ}
    (h : storeValue name convert value stored = .ok stored') :
    ∃ set, convert value = .ok set ∧ stored' = set stored := by
  unfold storeValue at h
  split at h
  · rename_i set hconvert
    exact ⟨set, hconvert, (Except.ok.inj h).symm⟩
  · cases h

/-- A list that is consumed with nothing unrecognized is accepted. -/
theorem accepts_of_consume {parser : ArgParser σ} {arguments extras : List Argument}
    {stored stored' : σ} (h : consume parser arguments stored extras = .ok (stored', [])) :
    extras = [] ∧ ∃ f, Accepts parser arguments f ∧ stored' = f stored := by
  -- the cases are those of `consume`; what raises or leaves an argument over is not accepted
  induction arguments, stored, extras using consume.induct parser with
  | case1 stored extras =>
    rw [consume] at h
    obtain ⟨rfl, rfl⟩ := Prod.mk.inj (Except.ok.inj h)
    exact ⟨rfl, id, .nil, rfl⟩
  | case2 rest stored extras =>
    rw [consume, if_pos rfl] at h
    have hextras := (Prod.mk.inj (Except.ok.inj h)).2
    exact absurd (List.append_eq_nil_iff.1 hextras).2 nofun
  | case3 argument rest stored extras hproper hclassify ih =>
    rw [consume, if_neg hproper, hclassify] at h
    exact absurd (List.append_eq_nil_iff.1 (ih h).1).2 nofun
  | case4 argument rest stored extras hproper hclassify ih =>
    rw [consume, if_neg hproper, hclassify] at h
    exact absurd (List.append_eq_nil_iff.1 (ih h).1).2 nofun
  | case5 argument rest stored extras hproper matching hclassify =>
    rw [consume, if_neg hproper, hclassify] at h
    cases h
  | case6 argument rest stored extras hproper name explicit hclassify =>
    rw [consume, if_neg hproper, hclassify] at h
    cases h
  | case7 argument rest stored extras hproper name set hclassify ih =>
    rw [consume, if_neg hproper, hclassify] at h
    obtain ⟨hextras, f, hrest, hstored⟩ := ih h
    exact ⟨hextras, f ∘ set, .flag hproper hclassify hrest, hstored⟩
  | case8 argument rest stored extras hproper name set equals text hclassify =>
    rw [consume, if_neg hproper, hclassify] at h
    cases h
  | case9 argument rest stored extras hproper name convert equals text hclassify ih =>
    rw [consume, if_neg hproper, hclassify] at h
    simp only at h
    cases hstore : storeValue name convert text stored with
    | error e =>
      rw [hstore] at h
      cases h
    | ok next =>
      rw [hstore] at h
      obtain ⟨set, hconvert, rfl⟩ := storeValue_eq_ok hstore
      obtain ⟨hextras, f, hrest, hstored⟩ := ih _ h
      exact ⟨hextras, f ∘ set, .joined hproper hclassify hconvert hrest, hstored⟩
  | case10 argument stored extras hproper name convert hclassify =>
    rw [consume, if_neg hproper, hclassify] at h
    cases h
  | case11 argument stored extras hproper name convert hclassify value rest hvalue ih =>
    rw [consume, if_neg hproper, hclassify] at h
    simp only [hvalue, if_true] at h
    cases hstore : storeValue name convert value stored with
    | error e =>
      rw [hstore] at h
      cases h
    | ok next =>
      rw [hstore] at h
      obtain ⟨set, hconvert, rfl⟩ := storeValue_eq_ok hstore
      obtain ⟨hextras, f, hrest, hstored⟩ := ih _ h
      exact ⟨hextras, f ∘ set, .separate hproper hclassify hvalue hconvert hrest, hstored⟩
  | case12 argument stored extras hproper name convert hclassify value rest hvalue =>
    rw [consume, if_neg hproper, hclassify] at h
    simp only [if_neg hvalue] at h
    cases h

/-- **The accepted lists.** The parser accepts the lists of uses of its options, and stores
what these store. -/
theorem parse_eq_ok_iff {parser : ArgParser σ} {defaults stored : σ}
    {arguments : List Argument} :
    parser.parse defaults arguments = .ok stored ↔
      ∃ f, Accepts parser arguments f ∧ stored = f defaults := by
  constructor
  · intro h
    unfold parse at h
    split at h
    · cases h
    · cases hconsume : consume parser arguments defaults [] with
      | error e =>
        rw [hconsume] at h
        cases h
      | ok result =>
        obtain ⟨stored', extras⟩ := result
        rw [hconsume] at h
        by_cases hextras : extras = []
        · rw [hextras] at hconsume
          obtain ⟨-, f, haccepts, hstored⟩ := accepts_of_consume hconsume
          refine ⟨f, haccepts, ?_⟩
          rw [← hstored]
          have hresult : (if extras ≠ [] then .error (.error (.unrecognized extras))
            else .ok stored' : Except ArgExit σ) = .ok stored := h
          rw [if_neg (not_not.2 hextras)] at hresult
          exact (Except.ok.inj hresult).symm
        · have hresult : (if extras ≠ [] then .error (.error (.unrecognized extras))
            else .ok stored' : Except ArgExit σ) = .ok stored := h
          rw [if_pos hextras] at hresult
          cases hresult
  · rintro ⟨f, haccepts, rfl⟩
    have hnone : parser.firstAmbiguous? arguments = none := by
      rw [firstAmbiguous?, List.findSome?_eq_none_iff]
      intro argument hmem
      have hnot := haccepts.not_ambiguous argument
        ((List.takeWhile_sublist _).subset hmem)
      split
      · rename_i matching hclassify
        exact absurd hclassify (hnot matching)
      · rfl
    rw [parse, hnone, haccepts.consume_eq]
    rfl

/-! ## The lists that ask for help -/

/-- The argument is no mistake by itself: no option, or one with all that it takes. -/
def Stands (parser : ArgParser σ) (argument : Argument) : Prop :=
  match parser.classify argument with
  | .positional | .unknown => True
  | .option _ (.storeTrue _) none => True
  | .option _ (.store convert) (some (_, text)) => ∃ set, convert text = .ok set
  | _ => False

/-- An option of the list asks for help, and the arguments before it are no mistakes. -/
inductive AsksHelp (parser : ArgParser σ) : List Argument → Prop where
  | here {argument name : Argument} {explicit : Option (Bool × Argument)} {rest : List Argument}
      (hproper : argument ≠ ['-', '-'])
      (hclassify : parser.classify argument = .option name .help explicit)
      (hexit : exitHelp name explicit = .help) : AsksHelp parser (argument :: rest)
  | stands {argument : Argument} {rest : List Argument} (hproper : argument ≠ ['-', '-'])
      (hstands : parser.Stands argument) (hrest : AsksHelp parser rest) :
      AsksHelp parser (argument :: rest)
  | separate {argument name value : Argument} {convert : Argument → Except String (σ → σ)}
      {set : σ → σ} {rest : List Argument} (hproper : argument ≠ ['-', '-'])
      (hclassify : parser.classify argument = .option name (.store convert) none)
      (hvalue : parser.isValue value = true)
      (hconvert : convert value = .ok set) (hrest : AsksHelp parser rest) :
      AsksHelp parser (argument :: value :: rest)

/-- A list that asks for help ends the loop. -/
theorem AsksHelp.consume_eq {parser : ArgParser σ} {arguments : List Argument}
    (h : AsksHelp parser arguments) (stored : σ) (extras : List Argument) :
    consume parser arguments stored extras = .error .help := by
  induction h generalizing stored extras with
  | here hproper hclassify hexit =>
    rw [consume, if_neg hproper, hclassify]
    exact congrArg Except.error hexit
  | stands hproper hstands _ ih =>
    rw [consume, if_neg hproper]
    unfold Stands at hstands
    split at hstands
    · rename_i hclassify
      rw [hclassify]
      exact ih _ _
    · rename_i hclassify
      rw [hclassify]
      exact ih _ _
    · rename_i hclassify
      rw [hclassify]
      exact ih _ _
    · rename_i hclassify
      obtain ⟨set, hconvert⟩ := hstands
      rw [hclassify]
      simp only [storeValue, hconvert]
      exact ih _ _
    · exact hstands.elim
  | separate hproper hclassify hvalue hconvert _ ih =>
    rw [consume, if_neg hproper, hclassify]
    simp only [storeValue, hconvert, hvalue, if_true]
    exact ih _ _

/-- The loop ends so only for such a list. -/
theorem asksHelp_of_consume {parser : ArgParser σ} {arguments extras : List Argument}
    {stored : σ} (h : consume parser arguments stored extras = .error .help) :
    AsksHelp parser arguments := by
  induction arguments, stored, extras using consume.induct parser with
  | case1 stored extras =>
    rw [consume] at h
    cases h
  | case2 rest stored extras =>
    rw [consume, if_pos rfl] at h
    cases h
  | case3 argument rest stored extras hproper hclassify ih =>
    rw [consume, if_neg hproper, hclassify] at h
    exact .stands hproper (by rw [Stands, hclassify]; trivial) (ih h)
  | case4 argument rest stored extras hproper hclassify ih =>
    rw [consume, if_neg hproper, hclassify] at h
    exact .stands hproper (by rw [Stands, hclassify]; trivial) (ih h)
  | case5 argument rest stored extras hproper matching hclassify =>
    rw [consume, if_neg hproper, hclassify] at h
    cases h
  | case6 argument rest stored extras hproper name explicit hclassify =>
    rw [consume, if_neg hproper, hclassify] at h
    exact .here hproper hclassify (Except.error.inj h)
  | case7 argument rest stored extras hproper name set hclassify ih =>
    rw [consume, if_neg hproper, hclassify] at h
    exact .stands hproper (by rw [Stands, hclassify]; trivial) (ih h)
  | case8 argument rest stored extras hproper name set equals text hclassify =>
    rw [consume, if_neg hproper, hclassify] at h
    cases h
  | case9 argument rest stored extras hproper name convert equals text hclassify ih =>
    rw [consume, if_neg hproper, hclassify] at h
    cases hconvert : convert text with
    | error message =>
      simp only [storeValue, hconvert] at h
      cases h
    | ok set =>
      simp only [storeValue, hconvert] at h
      exact .stands hproper (by rw [Stands, hclassify]; exact ⟨set, hconvert⟩) (ih _ h)
  | case10 argument stored extras hproper name convert hclassify =>
    rw [consume, if_neg hproper, hclassify] at h
    cases h
  | case11 argument stored extras hproper name convert hclassify value rest hvalue ih =>
    rw [consume, if_neg hproper, hclassify] at h
    cases hconvert : convert value with
    | error message =>
      simp only [storeValue, hconvert, hvalue, if_true] at h
      cases h
    | ok set =>
      simp only [storeValue, hconvert, hvalue, if_true] at h
      exact .separate hproper hclassify hvalue hconvert (ih _ h)
  | case12 argument stored extras hproper name convert hclassify value rest hvalue =>
    rw [consume, if_neg hproper, hclassify] at h
    simp only [if_neg hvalue] at h
    cases h

/-- The list shows the help: it asks for it, and nothing is ambiguous. -/
def ShowsHelp (parser : ArgParser σ) (arguments : List Argument) : Prop :=
  parser.firstAmbiguous? arguments = none ∧ AsksHelp parser arguments

/-- **The lists that show the help.** -/
theorem parse_eq_help_iff {parser : ArgParser σ} {defaults : σ} {arguments : List Argument} :
    parser.parse defaults arguments = .error .help ↔ parser.ShowsHelp arguments := by
  unfold parse ShowsHelp
  cases parser.firstAmbiguous? arguments with
  | some found =>
    constructor
    · intro h
      cases h
    · rintro ⟨h, -⟩
      cases h
  | none =>
    constructor
    · intro h
      refine ⟨rfl, ?_⟩
      cases hconsume : consume parser arguments defaults [] with
      | error e =>
        simp only [hconsume] at h
        obtain rfl := Except.error.inj h
        exact asksHelp_of_consume hconsume
      | ok result =>
        have hresult : (if result.2 ≠ [] then .error (.error (.unrecognized result.2))
          else .ok result.1 : Except ArgExit σ) = .error .help := by
          simp only [hconsume] at h
          exact h
        split at hresult
        · cases hresult
        · cases hresult
    · rintro ⟨-, hasks⟩
      simp only [hasks.consume_eq]
      rfl

end ArgParser
