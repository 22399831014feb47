/-
# The command line of an endpoint (`parse_options` of `cli.py`)

`parse_options` reads a profile or the options of an endpoint, and not both.  It tells
options from the profile by comparing the arguments with the normalized path of the
profile, so the spelling of the path decides.

* `config_of_accepts` : where the path of the profile comes from;
* `parserRejects_iff` : which mixes with endpoint options are rejected;
* `parseOptions_iff` : the spellings that are accepted, and the mixes that are rejected.
-/
import MatfVpn.ConfigFile
import MatfVpn.Lib.ArgParse

namespace MatfVpn

open ArgParser

/-! ## The parser -/

/-- The `argparse.Namespace` of the options. -/
structure Namespace where
  config : Option PosixPath
  tunName : String
  tunAddress : Option String
  mtu : ℤ
  bind : Option Address
  peer : Option Address
  sessionId : ℤ
  keyFile : Option String
  privateKeyFile : Option String
  peerPublicKeyFile : Option String
  role : Option EndpointRole
  ephemeralHandshake : Bool
  handshakeTimeout : Binary64
  packetsPerKey : ℤ
  reconnectDelay : Binary64
  jsonLogs : Bool
  keepaliveInterval : Binary64
  livenessTimeout : Binary64

/-- The defaults of the options. -/
def Namespace.defaults : Namespace where
  config := none
  tunName := "mvpn0"
  tunAddress := none
  mtu := 1400
  bind := none
  peer := none
  sessionId := 1
  keyFile := none
  privateKeyFile := none
  peerPublicKeyFile := none
  role := none
  ephemeralHandshake := false
  handshakeTimeout := .finite 3
  packetsPerKey := 0
  reconnectDelay := .finite 1
  jsonLogs := false
  keepaliveInterval := 0
  livenessTimeout := 0

/-- An option whose values are converted, with the message for values that are not. -/
def storeSome {α : Type} (message : String) (convert : Argument → Option α)
    (set : α → Namespace → Namespace) : ArgAction Namespace :=
  .store fun text =>
    match convert text with
    | some value => .ok (set value)
    | none => .error message

/-- An option without `type`. -/
def storeText (set : String → Namespace → Namespace) : ArgAction Namespace :=
  .store fun text => .ok (set (String.ofList text))

/-- An option with `type=Path`. -/
def storePath (set : PosixPath → Namespace → Namespace) : ArgAction Namespace :=
  .store fun text => .ok (set (.ofText text))

/-- An option with `type=Path` for a key file. -/
def storeKeyFile (set : String → Namespace → Namespace) : ArgAction Namespace :=
  storePath fun path => set (String.ofList path.toText)

/-- An option with `type=parse_endpoint`. -/
def storeEndpoint (set : Address → Namespace → Namespace) : ArgAction Namespace :=
  .store fun text => do
    let address ← parseAddress "endpoint must be IPv4_ADDRESS:PORT"
      "port must be between 1 and 65535" text
    return set address

/-- The role of a text. -/
def roleOfText? (text : Argument) : Option EndpointRole :=
  if text = "client".toList then some .client
  else if text = "server".toList then some .server
  else none

/-- `build_parser`. -/
def buildParser : ArgParser Namespace where
  options := [
    ("-h".toList, .help),
    ("--help".toList, .help),
    ("--config".toList, storePath fun path options => { options with config := some path }),
    ("--tun-name".toList, storeText fun name options => { options with tunName := name }),
    ("--tun-address".toList,
      storeText fun address options => { options with tunAddress := some address }),
    ("--mtu".toList,
      storeSome "invalid int value" pyInt? fun mtu options => { options with mtu := mtu }),
    ("--bind".toList, storeEndpoint fun address options => { options with bind := some address }),
    ("--peer".toList, storeEndpoint fun address options => { options with peer := some address }),
    ("--session-id".toList,
      storeSome "invalid int value" pyInt? fun id options => { options with sessionId := id }),
    ("--key-file".toList, storeKeyFile fun path options => { options with keyFile := some path }),
    ("--private-key-file".toList,
      storeKeyFile fun path options => { options with privateKeyFile := some path }),
    ("--peer-public-key-file".toList,
      storeKeyFile fun path options => { options with peerPublicKeyFile := some path }),
    ("--role".toList,
      storeSome "invalid choice" roleOfText? fun role options =>
        { options with role := some role }),
    ("--ephemeral-handshake".toList,
      .storeTrue fun options => { options with ephemeralHandshake := true }),
    ("--handshake-timeout".toList,
      storeSome "invalid float value" pyFloat? fun timeout options =>
        { options with handshakeTimeout := timeout }),
    ("--packets-per-key".toList,
      storeSome "invalid int value" pyInt? fun packets options =>
        { options with packetsPerKey := packets }),
    ("--reconnect-delay".toList,
      storeSome "invalid float value" pyFloat? fun delay options =>
        { options with reconnectDelay := delay }),
    ("--json-logs".toList, .storeTrue fun options => { options with jsonLogs := true }),
    ("--keepalive-interval".toList,
      storeSome "invalid float value" pyFloat? fun interval options =>
        { options with keepaliveInterval := interval }),
    ("--liveness-timeout".toList,
      storeSome "invalid float value" pyFloat? fun timeout options =>
        { options with livenessTimeout := timeout })]
  isDigit c := (decimalDigit? c).isSome

/-- `--config`. -/
def configName : Argument := "--config".toList

/-- `--config=` with a text. -/
def configForm (text : Argument) : Argument := configName ++ '=' :: text

/-! ## `parse_options` -/

/-- What a parser error is about. -/
inductive ParserError where
  | argument (e : ArgError)
  | message (text : String)

/-- The ends of `parse_options` without options: the help, an error of the parser, or an
exception. -/
inductive OptionsExit where
  | help
  | parserError (e : ParserError)
  | raised (e : PyError)

/-- `_namespace_from_config`. -/
def namespaceFromConfig (config : LoadedConfig) : Namespace where
  config := none
  tunName := config.tunName
  tunAddress := some config.tunAddress
  mtu := config.mtu
  bind := some config.bind
  peer := some config.peer
  sessionId := config.sessionId
  keyFile := config.keyFile
  privateKeyFile := config.privateKeyFile
  peerPublicKeyFile := config.peerPublicKeyFile
  role := config.role
  ephemeralHandshake := config.ephemeralHandshake
  handshakeTimeout := config.handshakeTimeout
  packetsPerKey := config.packetsPerKey
  reconnectDelay := config.reconnectDelay
  jsonLogs := config.jsonLogs
  keepaliveInterval := config.keepaliveInterval
  livenessTimeout := config.livenessTimeout

/-- The arguments that are not about the profile with this path. -/
def nonConfigArguments (arguments : List Argument) (path : PosixPath) : List Argument :=
  arguments.filter fun argument =>
    argument ∉ [configName, configForm path.toText] ∧ argument ≠ path.toText

/-- `parse_options`. -/
def parseOptions (documents : Documents) (arguments : List Argument) :
    Except OptionsExit Namespace :=
  match buildParser.parse .defaults arguments with
  | .error .help => .error .help
  | .error (.error e) => .error (.parserError (.argument e))
  | .ok options =>
      match options.config with
      | some path =>
          if nonConfigArguments arguments path ≠ [] then
            .error (.parserError (.message "--config cannot be combined with endpoint options"))
          else
            match loadConfig documents path with
            | .ok config => .ok (namespaceFromConfig config)
            | .error e => .error (.raised e)
      | none =>
          if options.tunAddress = none ∨ options.bind = none ∨ options.peer = none then
            .error (.parserError
              (.message "--tun-address, --bind, and --peer are required without --config"))
          else .ok options

/-! ## What the options store -/

/-- What `--config` stores. -/
def setConfig (path : PosixPath) (options : Namespace) : Namespace :=
  { options with config := some path }

theorem action?_config : buildParser.action? configName = some (storePath setConfig) := rfl

/-- An action that leaves the path of the profile alone. -/
def KeepsConfig : ArgAction Namespace → Prop
  | .store convert => ∀ text set, convert text = .ok set →
      ∀ options, (set options).config = options.config
  | .storeTrue set => ∀ options, (set options).config = options.config
  | .help => True

theorem keepsConfig_storeText {set : String → Namespace → Namespace}
    (h : ∀ value options, (set value options).config = options.config) :
    KeepsConfig (storeText set) := by
  rintro text _ ⟨⟩ options
  exact h _ options

theorem keepsConfig_storeKeyFile {set : String → Namespace → Namespace}
    (h : ∀ value options, (set value options).config = options.config) :
    KeepsConfig (storeKeyFile set) := by
  rintro text _ ⟨⟩ options
  exact h _ options

theorem keepsConfig_storeSome {α : Type} {message : String} {convert : Argument → Option α}
    {set : α → Namespace → Namespace}
    (h : ∀ value options, (set value options).config = options.config) :
    KeepsConfig (storeSome message convert set) := by
  intro text set' hconvert options
  dsimp only at hconvert
  split at hconvert
  · rw [← Except.ok.inj hconvert]
    exact h _ options
  · cases hconvert

theorem keepsConfig_storeEndpoint {set : Address → Namespace → Namespace}
    (h : ∀ value options, (set value options).config = options.config) :
    KeepsConfig (storeEndpoint set) := by
  intro text set' hconvert options
  obtain ⟨address, -, hset⟩ := except_bind_eq_ok.1 hconvert
  rw [← Except.ok.inj hset]
  exact h _ options

/-- **Only `--config` stores a path of the profile.** -/
theorem keepsConfig_of_mem {name : Argument} {action : ArgAction Namespace}
    (h : (name, action) ∈ buildParser.options) :
    (name = configName ∧ action = storePath setConfig) ∨
      (name ≠ configName ∧ KeepsConfig action) := by
  simp only [buildParser, List.mem_cons, List.not_mem_nil, or_false, Prod.mk.injEq] at h
  rcases h with ⟨rfl, rfl⟩ | ⟨rfl, rfl⟩ | ⟨rfl, rfl⟩ | ⟨rfl, rfl⟩ | ⟨rfl, rfl⟩ | ⟨rfl, rfl⟩ |
    ⟨rfl, rfl⟩ | ⟨rfl, rfl⟩ | ⟨rfl, rfl⟩ | ⟨rfl, rfl⟩ | ⟨rfl, rfl⟩ | ⟨rfl, rfl⟩ | ⟨rfl, rfl⟩ |
    ⟨rfl, rfl⟩ | ⟨rfl, rfl⟩ | ⟨rfl, rfl⟩ | ⟨rfl, rfl⟩ | ⟨rfl, rfl⟩ | ⟨rfl, rfl⟩ | ⟨rfl, rfl⟩
  · exact Or.inr ⟨by decide, trivial⟩
  · exact Or.inr ⟨by decide, trivial⟩
  · exact Or.inl ⟨rfl, rfl⟩
  · exact Or.inr ⟨by decide, keepsConfig_storeText fun _ _ => rfl⟩
  · exact Or.inr ⟨by decide, keepsConfig_storeText fun _ _ => rfl⟩
  · exact Or.inr ⟨by decide, keepsConfig_storeSome fun _ _ => rfl⟩
  · exact Or.inr ⟨by decide, keepsConfig_storeEndpoint fun _ _ => rfl⟩
  · exact Or.inr ⟨by decide, keepsConfig_storeEndpoint fun _ _ => rfl⟩
  · exact Or.inr ⟨by decide, keepsConfig_storeSome fun _ _ => rfl⟩
  · exact Or.inr ⟨by decide, keepsConfig_storeKeyFile fun _ _ => rfl⟩
  · exact Or.inr ⟨by decide, keepsConfig_storeKeyFile fun _ _ => rfl⟩
  · exact Or.inr ⟨by decide, keepsConfig_storeKeyFile fun _ _ => rfl⟩
  · exact Or.inr ⟨by decide, keepsConfig_storeSome fun _ _ => rfl⟩
  · exact Or.inr ⟨by decide, fun _ => rfl⟩
  · exact Or.inr ⟨by decide, keepsConfig_storeSome fun _ _ => rfl⟩
  · exact Or.inr ⟨by decide, keepsConfig_storeSome fun _ _ => rfl⟩
  · exact Or.inr ⟨by decide, keepsConfig_storeSome fun _ _ => rfl⟩
  · exact Or.inr ⟨by decide, fun _ => rfl⟩
  · exact Or.inr ⟨by decide, keepsConfig_storeSome fun _ _ => rfl⟩
  · exact Or.inr ⟨by decide, keepsConfig_storeSome fun _ _ => rfl⟩

/-- What the value of an option stores: the path, or no path. -/
theorem config_of_convert {name value : Argument}
    {convert : Argument → Except String (Namespace → Namespace)} {set : Namespace → Namespace}
    (h : (name, .store convert) ∈ buildParser.options) (hconvert : convert value = .ok set) :
    (name = configName ∧ set = setConfig (.ofText value)) ∨
      (name ≠ configName ∧ ∀ options, (set options).config = options.config) := by
  rcases keepsConfig_of_mem h with ⟨rfl, haction⟩ | ⟨hname, hkeeps⟩
  · rw [ArgAction.store.inj haction] at hconvert
    exact Or.inl ⟨rfl, (Except.ok.inj hconvert).symm⟩
  · exact Or.inr ⟨hname, hkeeps _ _ hconvert⟩

/-- What the value of `--config` stores. -/
theorem set_of_convert {value : Argument}
    {convert : Argument → Except String (Namespace → Namespace)} {set : Namespace → Namespace}
    (h : (configName, .store convert) ∈ buildParser.options) (hconvert : convert value = .ok set) :
    set = setConfig (.ofText value) := by
  rcases config_of_convert h hconvert with ⟨-, hset⟩ | ⟨hname, -⟩
  · exact hset
  · exact absurd rfl hname

/-- An option without value stores no path. -/
theorem config_of_storeTrue {name : Argument} {set : Namespace → Namespace}
    (h : (name, .storeTrue set) ∈ buildParser.options) :
    name ≠ configName ∧ ∀ options, (set options).config = options.config := by
  rcases keepsConfig_of_mem h with ⟨-, haction⟩ | ⟨hname, hkeeps⟩
  · cases haction
  · exact ⟨hname, hkeeps⟩

/-- The list gives this text to `--config`. -/
def GivesConfig (arguments : List Argument) (text : Argument) : Prop :=
  (∃ argument ∈ arguments, ∃ action equals,
    buildParser.classify argument = .option configName action (some (equals, text))) ∨
  (text ∈ arguments ∧ buildParser.classify text = .positional)

theorem GivesConfig.of_sublist {arguments arguments' : List Argument} {text : Argument}
    (h : GivesConfig arguments text) (hsub : ∀ a ∈ arguments, a ∈ arguments') :
    GivesConfig arguments' text := by
  rcases h with ⟨argument, hmem, hoption⟩ | ⟨hmem, hpositional⟩
  · exact Or.inl ⟨argument, hsub _ hmem, hoption⟩
  · exact Or.inr ⟨hsub _ hmem, hpositional⟩

/-- **Where the path comes from.** An accepted list stores no path, or that of a text it
gives to `--config`. -/
theorem config_of_accepts {arguments : List Argument} {f : Namespace → Namespace}
    (h : buildParser.Accepts arguments f) (options : Namespace) :
    (f options).config = options.config ∨
      ∃ text, (f options).config = some (.ofText text) ∧ GivesConfig arguments text := by
  induction h generalizing options with
  | nil => exact Or.inl rfl
  | @flag argument name set f rest _ hclassify _ ih =>
    obtain ⟨-, hkeeps⟩ := config_of_storeTrue (mem_options_of_classify hclassify)
    rcases ih (set options) with hsame | ⟨text, hconfig, hgives⟩
    · exact Or.inl (hsame.trans (hkeeps options))
    · exact Or.inr ⟨text, hconfig, hgives.of_sublist fun a ha => List.mem_cons_of_mem _ ha⟩
  | @joined argument name text convert equals set f rest _ hclassify hconvert _ ih =>
    rcases ih (set options) with hsame | ⟨text', hconfig, hgives⟩
    · rcases config_of_convert (mem_options_of_classify hclassify) hconvert with
        ⟨rfl, rfl⟩ | ⟨-, hkeeps⟩
      · exact Or.inr ⟨text, hsame, Or.inl ⟨argument, List.mem_cons_self, _, equals, hclassify⟩⟩
      · exact Or.inl (hsame.trans (hkeeps options))
    · exact Or.inr ⟨text', hconfig, hgives.of_sublist fun a ha => List.mem_cons_of_mem _ ha⟩
  | @separate argument name value convert set f rest _ hclassify hvalue hconvert _ ih =>
    rcases ih (set options) with hsame | ⟨text, hconfig, hgives⟩
    · rcases config_of_convert (mem_options_of_classify hclassify) hconvert with
        ⟨rfl, rfl⟩ | ⟨-, hkeeps⟩
      · exact Or.inr ⟨value, hsame,
          Or.inr ⟨List.mem_cons_of_mem _ List.mem_cons_self, (isValue_iff.1 hvalue).2⟩⟩
      · exact Or.inl (hsame.trans (hkeeps options))
    · exact Or.inr ⟨text, hconfig, hgives.of_sublist fun a ha =>
        List.mem_cons_of_mem _ (List.mem_cons_of_mem _ ha)⟩

/-- A stored path stays, or is replaced. -/
theorem config_ne_none_of_accepts {arguments : List Argument} {f : Namespace → Namespace}
    (h : buildParser.Accepts arguments f) {options : Namespace} (hne : options.config ≠ none) :
    (f options).config ≠ none := by
  rcases config_of_accepts h options with hsame | ⟨text, hconfig, -⟩
  · rw [hsame]
    exact hne
  · rw [hconfig]
    exact Option.some_ne_none _

/-- An argument of the list is read as an option with such a name. -/
def Names (arguments : List Argument) (p : Argument → Prop) : Prop :=
  ∃ argument ∈ arguments, ∃ name action explicit,
    buildParser.classify argument = .option name action explicit ∧ p name

/-- An accepted list with `--config` stores a path. -/
theorem config_ne_none_of_names {arguments : List Argument} {f : Namespace → Namespace}
    (h : buildParser.Accepts arguments f) (hnames : Names arguments (· = configName))
    (options : Namespace) : (f options).config ≠ none := by
  obtain ⟨argument, hmem, _, action, explicit, hoption, rfl⟩ := hnames
  induction h generalizing options with
  | nil => cases hmem
  | flag _ hclassify hrest ih =>
    rcases List.mem_cons.1 hmem with rfl | hmem
    · obtain ⟨rfl, -, -⟩ := ArgKind.option.inj (hoption.symm.trans hclassify)
      exact absurd rfl (config_of_storeTrue (mem_options_of_classify hclassify)).1
    · exact ih _ hmem
  | joined _ hclassify hconvert hrest ih =>
    rcases List.mem_cons.1 hmem with rfl | hmem
    · obtain ⟨rfl, -, -⟩ := ArgKind.option.inj (hoption.symm.trans hclassify)
      rw [set_of_convert (mem_options_of_classify hclassify) hconvert]
      exact config_ne_none_of_accepts hrest (Option.some_ne_none _)
    · exact ih _ hmem
  | separate _ hclassify hvalue hconvert hrest ih =>
    rcases List.mem_cons.1 hmem with rfl | hmem
    · obtain ⟨rfl, -, -⟩ := ArgKind.option.inj (hoption.symm.trans hclassify)
      rw [set_of_convert (mem_options_of_classify hclassify) hconvert]
      exact config_ne_none_of_accepts hrest (Option.some_ne_none _)
    rcases List.mem_cons.1 hmem with rfl | hmem
    · rw [(isValue_iff.1 hvalue).2] at hoption
      cases hoption
    · exact ih _ hmem

/-! ## The two spellings of `--config` -/

/-- No option string has an `=`. -/
theorem action?_eq_none {argument : Argument} (h : '=' ∈ argument) :
    buildParser.action? argument = none := by
  have hnames : ∀ name ∈ buildParser.options.map Prod.fst, '=' ∉ name := by decide
  rw [action?, List.lookup_eq_none_iff]
  intro option hoption
  rw [bne_iff_ne]
  rintro rfl
  exact hnames _ (List.mem_map.2 ⟨option, hoption, rfl⟩) h

theorem classify_configName :
    buildParser.classify configName = .option configName (storePath setConfig) none :=
  classify_exact rfl action?_config

theorem classify_configForm (text : Argument) :
    buildParser.classify (configForm text)
      = .option configName (storePath setConfig) (some (true, text)) :=
  classify_joined rfl (by decide) action?_config
    (action?_eq_none (List.mem_append_right _ List.mem_cons_self))

theorem configForm_inj {text text' : Argument} :
    configForm text = configForm text' ↔ text = text' := by
  rw [configForm, configForm, List.append_cancel_left_eq, List.cons_inj_right]

/-- `--config=` with a text is no normalized path of that text. -/
theorem configForm_ne_toText (text : Argument) :
    configForm text ≠ (PosixPath.ofText text).toText := by
  intro heq
  have hlength := PosixPath.length_toText_le text
  have hform : (configForm text).length = text.length + 9 := by
    rw [configForm, List.length_append, List.length_cons]
    show 8 + (text.length + 1) = text.length + 9
    omega
  rw [← heq, hform] at hlength
  omega

theorem accepts_configForm (text : Argument) :
    buildParser.Accepts [configForm text] (id ∘ setConfig (.ofText text)) :=
  .joined (by rw [configForm]; exact nofun) (classify_configForm text) rfl .nil

theorem accepts_configName {text : Argument} (h : text.head? ≠ some '-') :
    buildParser.Accepts [configName, text] (id ∘ setConfig (.ofText text)) := by
  have hvalue : buildParser.isValue text = true := by
    apply isValue_iff.2
    refine ⟨?_, classify_of_not_dash _ h⟩
    rintro rfl
    exact h rfl
  exact .separate (by decide) classify_configName hvalue rfl .nil

/-! ## The check of the arguments -/

/-- Every argument is about the profile with this path. -/
theorem nonConfigArguments_eq_nil {arguments : List Argument} {path : PosixPath} :
    nonConfigArguments arguments path = [] ↔
      ∀ argument ∈ arguments,
        argument = configName ∨ argument = configForm path.toText ∨ argument = path.toText := by
  rw [nonConfigArguments, List.filter_eq_nil_iff]
  refine forall₂_congr fun argument _ => ?_
  rw [decide_eq_true_eq, List.mem_cons, List.mem_singleton]
  tauto

/-- The command line ends with an error of the parser. -/
def ParserRejects (documents : Documents) (arguments : List Argument) : Prop :=
  ∃ e, parseOptions documents arguments = .error (.parserError e)

section checked

variable {documents : Documents} {arguments : List Argument} {options : Namespace}
  {path : PosixPath} (hparse : buildParser.parse .defaults arguments = .ok options)
  (hpath : options.config = some path)

include hparse hpath

/-- What is made of a list that stores a path. -/
theorem parseOptions_of_config :
    parseOptions documents arguments =
      if nonConfigArguments arguments path ≠ [] then
        .error (.parserError (.message "--config cannot be combined with endpoint options"))
      else
        match loadConfig documents path with
        | .ok config => .ok (namespaceFromConfig config)
        | .error e => .error (.raised e) := by
  rw [parseOptions, hparse]
  simp only [hpath]

theorem parserRejects_of_config :
    ParserRejects documents arguments ↔ nonConfigArguments arguments path ≠ [] := by
  rw [ParserRejects, parseOptions_of_config hparse hpath]
  constructor
  · rintro ⟨e, he⟩ hnil
    rw [if_neg (not_not.2 hnil)] at he
    split at he
    · cases he
    · cases he
  · intro hne
    rw [if_pos hne]
    exact ⟨_, rfl⟩

theorem parseOptions_eq_ok {config : LoadedConfig}
    (hload : loadConfig documents path = .ok config) :
    parseOptions documents arguments = .ok (namespaceFromConfig config) ↔
      nonConfigArguments arguments path = [] := by
  rw [parseOptions_of_config hparse hpath, hload]
  by_cases hnil : nonConfigArguments arguments path = []
  · rw [if_neg (not_not.2 hnil)]
    exact ⟨fun _ => hnil, fun _ => rfl⟩
  · rw [if_pos hnil]
    exact ⟨nofun, fun h => absurd h hnil⟩

end checked

/-- **The path after `--config`** has to be spelled the normalized way. -/
theorem parseOptions_configName {documents : Documents} {text : Argument} {config : LoadedConfig}
    (hdash : text.head? ≠ some '-') (hload : loadConfig documents (.ofText text) = .ok config) :
    parseOptions documents [configName, text] = .ok (namespaceFromConfig config) ↔
      (PosixPath.ofText text).toText = text := by
  rw [parseOptions_eq_ok (parse_eq_ok_iff.2 ⟨_, accepts_configName hdash, rfl⟩) rfl hload,
    nonConfigArguments_eq_nil]
  constructor
  · intro h
    rcases h text (List.mem_cons_of_mem _ List.mem_cons_self) with rfl | hform | htext
    · exact absurd rfl hdash
    · rw [hform] at hdash
      exact absurd rfl hdash
    · exact htext.symm
  · intro h argument hmem
    rcases List.mem_cons.1 hmem with rfl | hmem
    · exact Or.inl rfl
    · rw [h]
      exact Or.inr (Or.inr (List.mem_singleton.1 hmem))

/-- **The path joined to `--config`** has to be spelled the normalized way. -/
theorem parseOptions_configForm {documents : Documents} {text : Argument} {config : LoadedConfig}
    (hload : loadConfig documents (.ofText text) = .ok config) :
    parseOptions documents [configForm text] = .ok (namespaceFromConfig config) ↔
      (PosixPath.ofText text).toText = text := by
  rw [parseOptions_eq_ok (parse_eq_ok_iff.2 ⟨_, accepts_configForm text, rfl⟩) rfl hload,
    nonConfigArguments_eq_nil]
  constructor
  · intro h
    rcases h _ List.mem_cons_self with hname | hform | htext
    · exact absurd (List.append_right_eq_self.1 hname) nofun
    · exact (configForm_inj.1 hform).symm
    · exact absurd htext (configForm_ne_toText text)
  · intro h argument hmem
    rw [h]
    exact Or.inr (Or.inl (List.mem_singleton.1 hmem))

/-- Every profile has a spelling of its path that is accepted. -/
theorem parseOptions_toText {documents : Documents} {path : PosixPath} {config : LoadedConfig}
    (hload : loadConfig documents path = .ok config) :
    parseOptions documents [configForm path.toText] = .ok (namespaceFromConfig config) := by
  have hread := PosixPath.ofText_toText path
  apply (parseOptions_configForm ?_).2
  · rw [hread]
  · rw [hread]
    exact hload

/-! ## Mixes with endpoint options -/

/-- A name of an option of the endpoint. -/
def EndpointOption (name : Argument) : Prop :=
  name ∉ [configName, "-h".toList, "--help".toList]

instance (name : Argument) : Decidable (EndpointOption name) :=
  inferInstanceAs (Decidable (name ∉ _))

/-- The list is made of `--config=` with a normalized path, and of that path, which is
itself an option with all that it takes. -/
def Coincides (arguments : List Argument) : Prop :=
  ∃ text, (∀ argument ∈ arguments, argument = configForm text ∨ argument = text) ∧
    (PosixPath.ofText text).toText = text ∧ ∃ f, buildParser.Accepts [text] f

section mixed

variable {arguments : List Argument} {option name : Argument} {action : ArgAction Namespace}
  {explicit : Option (Bool × Argument)}
  (hoption : buildParser.classify option = .option name action explicit)
  (hname : EndpointOption name)

include hoption hname

/-- An option of the endpoint is not `--config`. -/
theorem ne_configName : option ≠ configName := by
  rintro rfl
  rw [classify_configName] at hoption
  obtain ⟨rfl, -, -⟩ := ArgKind.option.inj hoption
  exact hname List.mem_cons_self

theorem ne_configForm (text : Argument) : option ≠ configForm text := by
  rintro rfl
  rw [classify_configForm] at hoption
  obtain ⟨rfl, -, -⟩ := ArgKind.option.inj hoption
  exact hname List.mem_cons_self

/-- The one text that such a list can give to `--config`. -/
theorem eq_of_givesConfig {text : Argument}
    (hall : ∀ argument ∈ arguments, argument = configForm option ∨ argument = option)
    (hgives : GivesConfig arguments text) : text = option := by
  rcases hgives with ⟨argument, hargument, _, equals, hclassify⟩ | ⟨hargument, hclassify⟩
  · rcases hall argument hargument with rfl | rfl
    · rw [classify_configForm] at hclassify
      obtain ⟨-, -, hexplicit⟩ := ArgKind.option.inj hclassify
      exact (Prod.mk.inj (Option.some.inj hexplicit)).2.symm
    · obtain ⟨rfl, -, -⟩ := ArgKind.option.inj (hoption.symm.trans hclassify)
      exact absurd List.mem_cons_self hname
  · apply (hall text hargument).resolve_left
    rintro rfl
    rw [classify_configForm] at hclassify
    cases hclassify

end mixed

section accepted

variable {arguments : List Argument} {f : Namespace → Namespace} {path : PosixPath}
  (h : buildParser.Accepts arguments f) (hpath : (f .defaults).config = some path)
  (hmixed : Names arguments EndpointOption)

include h hpath

/-- The path of the profile is that of a text given to `--config`. -/
theorem path_of_accepts : ∃ text, path = .ofText text ∧ GivesConfig arguments text := by
  rcases config_of_accepts h .defaults with hnone | ⟨text, hconfig, hgives⟩
  · rw [hpath] at hnone
    cases hnone
  · rw [hpath] at hconfig
    exact ⟨text, Option.some.inj hconfig, hgives⟩

include hmixed

/-- A mix that passes the check is one whose endpoint option is the path of the profile. -/
theorem coincides_of_accepts (hnil : nonConfigArguments arguments path = []) :
    Coincides arguments := by
  rw [nonConfigArguments_eq_nil] at hnil
  obtain ⟨option, hmem, name, action, explicit, hoption, hname⟩ := hmixed
  have htext : path.toText = option := by
    rcases hnil option hmem with heq | heq | heq
    · exact absurd heq (ne_configName hoption hname)
    · exact absurd heq (ne_configForm hoption hname _)
    · exact heq.symm
  rw [htext] at hnil
  -- no argument is positional, so `--config` is not there without a text joined to it
  have hoptions : ∀ argument ∈ arguments, buildParser.classify argument ≠ .positional := by
    intro argument hargument
    rcases hnil argument hargument with rfl | rfl | rfl
    · rw [classify_configName]
      exact nofun
    · rw [classify_configForm]
      exact nofun
    · rw [hoption]
      exact nofun
  have halone := h.accepts_of_mem hoptions
  have hall : ∀ argument ∈ arguments, argument = configForm option ∨ argument = option := by
    intro argument hargument
    apply (hnil argument hargument).resolve_left
    rintro rfl
    obtain ⟨g, hg⟩ := halone _ hargument
    exact not_accepts_of_store classify_configName hg
  obtain ⟨text, rfl, hgives⟩ := path_of_accepts h hpath
  rw [eq_of_givesConfig hoption hname hall hgives] at htext
  exact ⟨option, hall, htext, halone _ hmem⟩

/-- A list whose endpoint option is the path of the profile passes the check. -/
theorem nonConfigArguments_of_coincides (hcoincides : Coincides arguments) :
    nonConfigArguments arguments path = [] := by
  obtain ⟨text, hall, hnormal, -⟩ := hcoincides
  obtain ⟨option, hmem, name, action, explicit, hoption, hname⟩ := hmixed
  obtain rfl : option = text :=
    (hall option hmem).resolve_left (ne_configForm hoption hname text)
  obtain ⟨text, rfl, hgives⟩ := path_of_accepts h hpath
  rw [nonConfigArguments_eq_nil, eq_of_givesConfig hoption hname hall hgives, hnormal]
  exact fun argument hargument => Or.inr (hall argument hargument)

end accepted

/-- **The mixes that are rejected.** A list with `--config` and an option of the endpoint
is rejected unless the parser prints its help, or the option is taken for the path. -/
theorem parserRejects_iff (documents : Documents) {arguments : List Argument}
    (hconfig : Names arguments (· = configName)) (hmixed : Names arguments EndpointOption) :
    ParserRejects documents arguments ↔
      ¬ buildParser.ShowsHelp arguments ∧ ¬ Coincides arguments := by
  rw [← @parse_eq_help_iff _ buildParser .defaults arguments]
  cases hparse : buildParser.parse .defaults arguments with
  | error exit =>
    cases exit with
    | help =>
      rw [ParserRejects, parseOptions, hparse]
      constructor
      · rintro ⟨e, he⟩
        cases he
      · rintro ⟨hhelp, -⟩
        exact absurd rfl hhelp
    | error e =>
      have hrejected : ParserRejects documents arguments := by
        rw [ParserRejects, parseOptions, hparse]
        exact ⟨_, rfl⟩
      refine iff_of_true hrejected ⟨nofun, ?_⟩
      rintro ⟨text, hall, -, f, htext⟩
      -- every argument is accepted, so the list is
      have haccepts : ∀ argument ∈ arguments, ∃ g, buildParser.Accepts [argument] g := by
        intro argument hargument
        rcases hall argument hargument with rfl | rfl
        · exact ⟨_, accepts_configForm text⟩
        · exact ⟨f, htext⟩
      obtain ⟨g, hg⟩ := accepts_of_forall haccepts
      rw [parse_eq_ok_iff.2 ⟨g, hg, rfl⟩] at hparse
      cases hparse
  | ok options =>
    obtain ⟨f, haccepts, rfl⟩ := parse_eq_ok_iff.1 hparse
    obtain ⟨path, hpath⟩ := Option.ne_none_iff_exists'.1
      (config_ne_none_of_names haccepts hconfig .defaults)
    rw [parserRejects_of_config hparse hpath]
    constructor
    · intro hne
      exact ⟨nofun, fun hcoincides =>
        hne (nonConfigArguments_of_coincides haccepts hpath hmixed hcoincides)⟩
    · rintro ⟨-, hnot⟩ hnil
      exact hnot (coincides_of_accepts haccepts hpath hmixed hnil)

/-- **When `parse_options` keeps profiles and options apart.** A profile is loaded under
either spelling of the option exactly for a path that is spelled the normalized way, and a
mix is rejected unless the parser prints its help or the option is taken for the path. -/
theorem parseOptions_iff (documents : Documents) :
    (∀ (text : Argument) (config : LoadedConfig), text ≠ [] → text.head? ≠ some '-' →
      loadConfig documents (.ofText text) = .ok config →
      ((parseOptions documents [configName, text] = .ok (namespaceFromConfig config) ∧
        parseOptions documents [configForm text] = .ok (namespaceFromConfig config)) ↔
        (PosixPath.ofText text).toText = text)) ∧
    ∀ arguments : List Argument, Names arguments (· = configName) →
      Names arguments EndpointOption →
      (ParserRejects documents arguments ↔
        ¬ buildParser.ShowsHelp arguments ∧ ¬ Coincides arguments) := by
  constructor
  · intro text config _ hdash hload
    rw [parseOptions_configName hdash hload, parseOptions_configForm hload, and_self_iff]
  · intro arguments hconfig hmixed
    exact parserRejects_iff documents hconfig hmixed

/-- One profile, of a plain endpoint. -/
def profileDocuments (name : Argument) : Documents := fun path =>
  if path = .ofText name then
    .ok (.object [("tun_address", .string "10.0.0.1/30"), ("bind", .string "192.0.2.1:51820"),
      ("peer", .string "192.0.2.2:51820")])
  else .error (.caught "No such file or directory")

/-- A profile under its normalized path, and a mix with `--mtu`. -/
theorem parseOptions_sample :
    (∃ config, loadConfig (profileDocuments "client.json".toList)
        (.ofText "client.json".toList) = .ok config ∧
      parseOptions (profileDocuments "client.json".toList) [configName, "client.json".toList]
        = .ok (namespaceFromConfig config) ∧
      parseOptions (profileDocuments "client.json".toList) [configForm "client.json".toList]
        = .ok (namespaceFromConfig config)) ∧
    ParserRejects (profileDocuments "client.json".toList)
      [configName, "client.json".toList, "--mtu".toList, "1300".toList] := by
  have hload : (loadConfig (profileDocuments "client.json".toList)
      (.ofText "client.json".toList)).toOption.isSome = true := by
    decide +kernel
  obtain ⟨config, hconfig⟩ := Option.isSome_iff_exists.1 hload
  obtain ⟨hprofile, hmixes⟩ := parseOptions_iff (profileDocuments "client.json".toList)
  refine ⟨⟨config, eq_ok_of_toOption hconfig, (hprofile _ config (by decide) (by decide)
    (eq_ok_of_toOption hconfig)).2 (by decide)⟩, ?_⟩
  apply (hmixes _ ⟨configName, List.mem_cons_self, _, _, _, classify_configName, rfl⟩
    ⟨"--mtu".toList, by decide, _, _, _, classify_exact rfl rfl, by decide⟩).2
  constructor
  · rw [← @parse_eq_help_iff _ buildParser .defaults]
    intro hhelp
    have haccepted : (buildParser.parse .defaults
        [configName, "client.json".toList, "--mtu".toList, "1300".toList]).toOption.isSome := by
      decide +kernel
    rw [hhelp] at haccepted
    cases haccepted
  · rintro ⟨text, hall, -⟩
    rcases hall configName List.mem_cons_self with hform | rfl
    · exact absurd (List.self_eq_append_right.1 hform) nofun
    · exact absurd (hall "--mtu".toList (by decide)) (by decide)

/-- `./client.json` is refused as an option of the endpoint, and an option of the endpoint
is taken for the path `--json-logs`. -/
theorem parseOptions_not_iff :
    (¬ ∀ (documents : Documents) (text : Argument) (config : LoadedConfig), text ≠ [] →
      text.head? ≠ some '-' → loadConfig documents (.ofText text) = .ok config →
      parseOptions documents [configName, text] = .ok (namespaceFromConfig config) ∧
        parseOptions documents [configForm text] = .ok (namespaceFromConfig config)) ∧
    ¬ ∀ (documents : Documents) (arguments : List Argument),
      Names arguments (· = configName) → Names arguments EndpointOption →
      ParserRejects documents arguments := by
  constructor
  · intro h
    have hload : (loadConfig (profileDocuments "client.json".toList)
        (.ofText "./client.json".toList)).toOption.isSome = true := by
      decide +kernel
    obtain ⟨config, hconfig⟩ := Option.isSome_iff_exists.1 hload
    have hreturns := h _ _ config (by decide) (by decide) (eq_ok_of_toOption hconfig)
    exact absurd ((parseOptions_configForm (eq_ok_of_toOption hconfig)).1 hreturns.2) (by decide)
  · intro h
    have hflag : buildParser.classify "--json-logs".toList
        = .option "--json-logs".toList (.storeTrue fun options => { options with jsonLogs := true })
          none := classify_exact rfl rfl
    have hconfig : Names [configForm "--json-logs".toList, "--json-logs".toList] (· = configName) :=
      ⟨_, List.mem_cons_self, _, _, _, classify_configForm _, rfl⟩
    have hmixed : Names [configForm "--json-logs".toList, "--json-logs".toList] EndpointOption :=
      ⟨_, List.mem_cons_of_mem _ List.mem_cons_self, _, _, _, hflag, by decide⟩
    obtain ⟨-, hnot⟩ := (parserRejects_iff (profileDocuments "--json-logs".toList) hconfig hmixed).1
      (h _ _ hconfig hmixed)
    refine hnot ⟨"--json-logs".toList, ?_, by decide, _, .flag (by decide) hflag .nil⟩
    intro argument hargument
    rw [List.mem_cons, List.mem_singleton] at hargument
    exact hargument

end MatfVpn
