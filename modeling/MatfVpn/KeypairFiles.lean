/-
# Generated key files (`write_keypair` of `key_agreement.py`)

`write_keypair` creates two files and removes the first one when a later operation
fails.  Every operation on a file may fail, as the answers of the operating system
say.  The second file is removed by nobody: the call is all or nothing unless the
public file is created and cannot be written.

* `bytes?_hexLine` : a written key is read back;
* `writeText_spec` : what is left of a file after a failed write;
* `writeKeypair_atomic_iff` : when the call is all or nothing.
-/
import MatfVpn.Endpoint
import MatfVpn.SamplePrimitives
import Mathlib.Data.Nat.Bitwise

namespace MatfVpn

open Program

/-! ## The text of a key -/

/-- `data.hex()`. -/
def hexDigits (data : Bytes) : List Char :=
  data.flatMap fun byte => [Nat.digitChar (byte.toNat / 16), Nat.digitChar (byte.toNat % 16)]

/-- The digits are not space, and read back as their values. -/
theorem hexDigit?_digitChar : ∀ value < 16, hexDigit? (Nat.digitChar value) = some value ∧
    isSpace (Nat.digitChar value) = false ∧ (Nat.digitChar value).isWhitespace = false ∧
    (Nat.digitChar value).toNat ≠ 11 ∧ (Nat.digitChar value).toNat ≠ 12 := by
  decide

theorem not_isSpace_of_mem_hexDigits {data : Bytes} {c : Char} (h : c ∈ hexDigits data) :
    isSpace c = false := by
  obtain ⟨byte, -, hc⟩ := List.mem_flatMap.1 h
  have hlt := byte.toNat_lt
  rcases List.mem_cons.1 hc with rfl | hc
  · exact (hexDigit?_digitChar _ (by omega)).2.1
  · rw [List.mem_singleton.1 hc]
    exact (hexDigit?_digitChar _ (by omega)).2.1

/-- **Reading back.** The digits of a byte string denote it. -/
theorem fromHex_hexDigits (data : Bytes) : fromHex (hexDigits data) = some data := by
  induction data with
  | nil => rfl
  | cons byte data ih =>
    have hlt := byte.toNat_lt
    obtain ⟨hhigh, -, hblank, htab, hfeed⟩ := hexDigit?_digitChar (byte.toNat / 16) (by omega)
    obtain ⟨hlow, -⟩ := hexDigit?_digitChar (byte.toNat % 16) (by omega)
    show fromHex (Nat.digitChar (byte.toNat / 16) :: Nat.digitChar (byte.toNat % 16) ::
      hexDigits data) = _
    rw [fromHex, hblank, decide_eq_false htab, decide_eq_false hfeed]
    simp only [Bool.or_self, Bool.false_eq_true, if_false, hhigh, hlow, ih]
    show some (UInt8.ofNat (16 * (byte.toNat / 16) + byte.toNat % 16) :: data) = _
    rw [Nat.div_add_mod, UInt8.ofNat_toNat]

/-- The end of a line is stripped. -/
theorem strip_line {text : List Char} (h : ∀ c ∈ text, isSpace c = false) :
    (((text ++ ['\n']).dropWhile isSpace).reverse.dropWhile isSpace).reverse = text := by
  have hback : text.reverse.dropWhile isSpace = text.reverse := by
    cases hr : text.reverse with
    | nil => rfl
    | cons c rest =>
      apply List.dropWhile_cons_of_neg
      rw [h c (List.mem_reverse.1 (hr ▸ List.mem_cons_self))]
      decide
  cases text with
  | nil => decide
  | cons c rest =>
    rw [List.cons_append, List.dropWhile_cons_of_neg (by simp [h c List.mem_cons_self]),
      ← List.cons_append, List.reverse_append]
    show (List.dropWhile isSpace ('\n' :: (c :: rest).reverse)).reverse = _
    rw [List.dropWhile_cons_of_pos (by decide), hback, List.reverse_reverse]

/-- The line that `write_keypair` writes for a key. -/
def hexLine (key : Bytes) : List Char := hexDigits key ++ ['\n']

/-- **A written key is read back.** -/
theorem bytes?_hexLine (mode : ℕ) (key : Bytes) :
    KeyFile.bytes? ⟨mode, some (String.ofList (hexLine key))⟩ = some key := by
  show fromHex (((String.ofList (hexLine key)).toList.dropWhile isSpace).reverse.dropWhile
    isSpace).reverse = _
  rw [String.toList_ofList, hexLine, strip_line fun _ => not_isSpace_of_mem_hexDigits,
    fromHex_hexDigits]

/-! ## File operations -/

/-- A failed operation: its exception, and how many characters reached the file. -/
structure FileFault where
  error : PyError
  passed : ℕ

/-- The failures of the operations on one file. -/
structure FileAnswers where
  openFault : Option PyError
  fdopenFault : Option PyError
  writeFault : Option FileFault
  closeFault : Option FileFault

/-- The open file can be written and closed. -/
def FileAnswers.Written (answers : FileAnswers) : Prop :=
  answers.fdopenFault = none ∧ answers.writeFault = none ∧ answers.closeFault = none

/-- `os.open(path, os.O_WRONLY | os.O_CREAT | os.O_EXCL, mode)`. -/
def osOpen (umask : ℕ) (path : String) (mode : ℕ) :
    Option PyError → Program PyError Empty KeyFiles Unit
  | some e => raise e
  | none => do
      let files ← read
      if (files path).isSome then raise (.osError "File exists")
      else update fun files => Function.update files path (some ⟨mode.ldiff umask, some ""⟩)

/-- Characters reach the file. -/
def flush (path : String) (text : List Char) (files : KeyFiles) : KeyFiles :=
  Function.update files path ((files path).map fun file =>
    { file with text := file.text.map fun old => String.ofList (old.toList ++ text) })

/-- `file.write(text)`, which returns what is left in the buffer. -/
def fileWrite (path : String) (text : List Char) :
    Option FileFault → Program PyError Empty KeyFiles (List Char)
  | none => return text
  | some fault => do
      update (flush path (text.take fault.passed))
      raise fault.error

/-- `file.close()`. -/
def fileClose (path : String) (buffer : List Char) :
    Option FileFault → Program PyError Empty KeyFiles Unit
  | none => update (flush path buffer)
  | some fault => do
      update (flush path (buffer.take fault.passed))
      raise fault.error

/-- `with os.fdopen(descriptor, "w", encoding="ascii") as file: file.write(text)`. -/
def writeText (path : String) (text : List Char) (answers : FileAnswers) :
    Program PyError Empty KeyFiles Unit := do
  raises answers.fdopenFault
  match ← attempt (fileWrite path text answers.writeFault) with
  | .ok buffer => fileClose path buffer answers.closeFault
  | .error e => do
      fileClose path [] answers.closeFault
      raise e

/-- `path.unlink(missing_ok=True)`. -/
def unlink (path : String) : Program PyError Empty KeyFiles Unit :=
  update fun files => Function.update files path none

/-- `write_keypair`, for the private key that the generator draws. -/
def writeKeypair (P : Primitives) (umask : ℕ) (drawn : Bytes) (privatePath publicPath : String)
    (privateAnswers publicAnswers : FileAnswers) : Program PyError Empty KeyFiles Unit := do
  let (privateKey, publicKey) := generateKeypair P drawn
  osOpen umask privatePath 0o600 privateAnswers.openFault
  let body : Program PyError Empty KeyFiles Unit := do
    writeText privatePath (hexLine privateKey) privateAnswers
    osOpen umask publicPath 0o644 publicAnswers.openFault
    writeText publicPath (hexLine publicKey) publicAnswers
  match ← attempt body with
  | .ok () => return ()
  | .error e => do
      unlink privatePath
      raise e

/-! ## What the operations do -/

section operations

variable {files : KeyFiles} {path : String} {umask mode : ℕ}

/-- **Opening.** A new empty file, unless there is one or the call fails. -/
theorem osOpen_spec (fault : Option PyError) :
    wp (osOpen umask path mode fault) files fun r files' _ =>
      (r = .ok () ∧ fault = none ∧ files path = none ∧
        files' = Function.update files path (some ⟨mode.ldiff umask, some ""⟩)) ∨
      ((∃ e, r = .error e) ∧ ¬ (fault = none ∧ files path = none) ∧ files' = files) := by
  cases fault with
  | some e => exact Or.inr ⟨⟨e, rfl⟩, nofun, rfl⟩
  | none =>
    show wp (read >>= fun files => _) _ _
    rw [wp_read_bind, wp_ite]
    constructor
    · intro hsome
      refine Or.inr ⟨⟨_, rfl⟩, fun h => ?_, rfl⟩
      rw [h.2] at hsome
      cases hsome
    · intro hnone
      exact Or.inl ⟨rfl, rfl, Option.not_isSome_iff_eq_none.1 hnone, rfl⟩

/-- Characters are appended to a file. -/
theorem flush_of_text {file : KeyFile} {old : List Char} (hfile : files path = some file)
    (htext : file.text = some (String.ofList old)) (text : List Char) :
    flush path text files =
      Function.update files path
        (some { file with text := some (String.ofList (old ++ text)) }) := by
  rw [flush, hfile]
  simp only [Option.map_some, htext, String.toList_ofList]

/-- **Writing.** Only the text of the file changes, and it is the whole text exactly when
every operation on the open file succeeds. -/
theorem writeText_spec (files : KeyFiles) (path : String) (mode : ℕ) (text : List Char)
    (answers : FileAnswers) :
    wp (writeText path text answers) (Function.update files path (some ⟨mode, some ""⟩))
      fun r files' _ =>
        (r = .ok () ∧ answers.Written ∧
          files' = Function.update files path (some ⟨mode, some (String.ofList text)⟩)) ∨
        ((∃ e, r = .error e) ∧ ¬ answers.Written ∧
          ∃ part, files' = Function.update files path (some ⟨mode, some part⟩)) := by
  have hflush : ∀ old new, flush path new
      (Function.update files path (some ⟨mode, some (String.ofList old)⟩)) =
        Function.update files path (some ⟨mode, some (String.ofList (old ++ new))⟩) := by
    intro old new
    rw [flush_of_text (Function.update_self ..) rfl, Function.update_idem]
  obtain ⟨opening, fdopen, write, close⟩ := answers
  show wp (raises fdopen >>= fun _ => _) _ _
  cases fdopen with
  | some e => exact Or.inr ⟨⟨e, rfl⟩, fun h => (nomatch h.1), "", rfl⟩
  | none =>
    cases write with
    | some fault =>
      -- the exception of the write ends the block, unless closing the file raises another
      refine Or.inr ⟨?_, fun h => (nomatch h.2.1), ?_⟩
      · cases close with
        | none => exact ⟨fault.error, rfl⟩
        | some late => exact ⟨late.error, rfl⟩
      · cases close with
        | none => exact ⟨_, (congrArg (flush path []) (hflush [] _)).trans (hflush _ _)⟩
        | some late => exact ⟨_, (congrArg (flush path _) (hflush [] _)).trans (hflush _ _)⟩
    | none =>
      cases close with
      | none => exact Or.inl ⟨rfl, ⟨rfl, rfl, rfl⟩, hflush [] text⟩
      | some late =>
        exact Or.inr ⟨⟨late.error, rfl⟩, fun h => (nomatch h.2.2), _, hflush [] _⟩

end operations

/-! ## All or nothing -/

/-- The files are the two files of one key pair: what the loaders of `main` read. -/
def HoldKeypair (P : Primitives) (files : KeyFiles) (privatePath publicPath : String) : Prop :=
  ∃ key, loadX25519PrivateKey files privatePath = .ok key ∧
    loadX25519PublicKey files publicPath = .ok (P.x25519Public key)

/-- A call that raises leaves the files as they were; one that returns leaves a key pair, and
every file that was there before. -/
def AllOrNothing (P : Primitives) (files : KeyFiles) (privatePath publicPath : String)
    (call : Program PyError Empty KeyFiles Unit) : Prop :=
  wp call files fun r files' _ =>
    match r with
    | .error _ => files' = files
    | .ok () => HoldKeypair P files' privatePath publicPath ∧
        ∀ path, (files path).isSome → files' path = files path

/-- The call creates the public file: nothing is in the way of either file, and every
operation up to the creation succeeds. -/
def PublicCreated (files : KeyFiles) (privatePath publicPath : String)
    (privateAnswers publicAnswers : FileAnswers) : Prop :=
  files privatePath = none ∧ files publicPath = none ∧ publicPath ≠ privatePath ∧
    privateAnswers.openFault = none ∧ privateAnswers.Written ∧ publicAnswers.openFault = none

section writeKeypair

variable {P : Primitives} {files : KeyFiles} {privatePath publicPath : String}

/-- A file with a key of 32 bytes that only its owner can access is a private key. -/
theorem loadX25519PrivateKey_hexLine {mode : ℕ} {key : Bytes} (hmode : mode % 64 = 0)
    (hlength : key.length = x25519KeySize)
    (hfile : files privatePath = some ⟨mode, some (String.ofList (hexLine key))⟩) :
    loadX25519PrivateKey files privatePath = .ok key := by
  have hshared : ¬ KeyFile.isShared ⟨mode, some (String.ofList (hexLine key))⟩ := by
    simp [KeyFile.isShared, hmode]
  rw [loadX25519PrivateKey, hfile]
  show (if _ then _ else readX25519Key _ _) = _
  rw [if_neg hshared, readX25519Key, Option.bind_some, bytes?_hexLine]
  exact if_neg (not_not.2 hlength)

/-- A file with a key of 32 bytes is a public key. -/
theorem loadX25519PublicKey_hexLine {mode : ℕ} {key : Bytes}
    (hlength : key.length = x25519KeySize)
    (hfile : files publicPath = some ⟨mode, some (String.ofList (hexLine key))⟩) :
    loadX25519PublicKey files publicPath = .ok key := by
  rw [loadX25519PublicKey, readX25519Key, hfile, Option.bind_some, bytes?_hexLine]
  exact if_neg (not_not.2 hlength)

/-- Whatever the `umask`, the private key is the owner's. -/
theorem ldiff_privateMode (umask : ℕ) : Nat.ldiff 0o600 umask % 64 = 0 := by
  apply Nat.eq_of_testBit_eq
  intro i
  rw [show 64 = 2 ^ 6 from rfl, Nat.testBit_mod_two_pow, Nat.testBit_ldiff, Nat.zero_testBit]
  by_cases hi : i < 6
  · have hbit : Nat.testBit 0o600 i = false := by
      revert i
      decide
    rw [hbit]
    simp
  · rw [decide_eq_false hi, Bool.false_and]

/-- What is created is removed again. -/
theorem update_update_none {value : KeyFile} (h : files privatePath = none) :
    Function.update (Function.update files privatePath (some value)) privatePath none = files := by
  rw [Function.update_idem, ← h, Function.update_eq_self]

variable (P) in
/-- **The three ends of `write_keypair`.** Both files are written; or nothing is left,
because the public file was not created; or the public file is left over. -/
theorem writeKeypair_spec (umask : ℕ) (drawn : Bytes)
    (privateAnswers publicAnswers : FileAnswers) :
    wp (writeKeypair P umask drawn privatePath publicPath privateAnswers publicAnswers) files
      fun r files' _ =>
        (r = .ok () ∧ PublicCreated files privatePath publicPath privateAnswers publicAnswers ∧
          publicAnswers.Written ∧
          files' = Function.update (Function.update files privatePath
              (some ⟨Nat.ldiff 0o600 umask, some (String.ofList (hexLine drawn))⟩))
            publicPath (some ⟨Nat.ldiff 0o644 umask,
              some (String.ofList (hexLine (P.x25519Public drawn)))⟩)) ∨
        ((∃ e, r = .error e) ∧
          ¬ PublicCreated files privatePath publicPath privateAnswers publicAnswers ∧
          files' = files) ∨
        ((∃ e, r = .error e) ∧
          PublicCreated files privatePath publicPath privateAnswers publicAnswers ∧
          ¬ publicAnswers.Written ∧
          ∃ file, files' = Function.update files publicPath (some file)) := by
  unfold writeKeypair
  rw [wp_bind]
  refine wp_mono (osOpen_spec privateAnswers.openFault) ?_
  rintro r files₁ t₁ (⟨rfl, hopen, hfree, rfl⟩ | ⟨⟨e, rfl⟩, hnot, rfl⟩)
  swap
  -- no private file was created, and the exception is outside of the `try`
  · exact Or.inr (Or.inl ⟨⟨e, rfl⟩, fun h => hnot ⟨h.2.2.2.1, h.1⟩, rfl⟩)
  show wp (attempt _ >>= _) _ _
  rw [wp_bind, wp_attempt, wp_bind]
  refine wp_mono (writeText_spec files privatePath _ _ privateAnswers) ?_
  rintro r files₂ t₂ (⟨rfl, hwritten, rfl⟩ | ⟨⟨e, rfl⟩, hnot, part, rfl⟩)
  swap
  · exact Or.inr (Or.inl ⟨⟨e, rfl⟩, fun h => hnot h.2.2.2.2.1, update_update_none hfree⟩)
  show wp (_ >>= _) _ _
  rw [wp_bind]
  refine wp_mono (osOpen_spec publicAnswers.openFault) ?_
  rintro r files₃ t₃ (⟨rfl, hopen', hfree', rfl⟩ | ⟨⟨e, rfl⟩, hnot, rfl⟩)
  swap
  · refine Or.inr (Or.inl ⟨⟨e, rfl⟩, fun h => hnot ⟨h.2.2.2.2.2, ?_⟩, update_update_none hfree⟩)
    rw [Function.update_of_ne h.2.2.1]
    exact h.2.1
  -- the public path is another one, for the private file exists by now
  have hne : publicPath ≠ privatePath := by
    rintro rfl
    rw [Function.update_self] at hfree'
    cases hfree'
  rw [Function.update_of_ne hne] at hfree'
  have hcreated : PublicCreated files privatePath publicPath privateAnswers publicAnswers :=
    ⟨hfree, hfree', hne, hopen, hwritten, hopen'⟩
  show wp _ _ _
  refine wp_mono (writeText_spec _ publicPath _ _ publicAnswers) ?_
  rintro r files₄ t₄ (⟨rfl, hwritten', rfl⟩ | ⟨⟨e, rfl⟩, hnot, part, rfl⟩)
  · exact Or.inl ⟨rfl, hcreated, hwritten', rfl⟩
  · refine Or.inr (Or.inr ⟨⟨e, rfl⟩, hcreated, hnot, ⟨Nat.ldiff 0o644 umask, some part⟩, ?_⟩)
    show Function.update (_ : KeyFiles) privatePath none = _
    rw [Function.update_comm hne, update_update_none hfree]

variable (P) in
/-- A public file that was created and not written is left over. -/
theorem writeKeypair_leaves (umask : ℕ) (drawn : Bytes) {privateAnswers publicAnswers : FileAnswers}
    (hcreated : PublicCreated files privatePath publicPath privateAnswers publicAnswers)
    (hnot : ¬ publicAnswers.Written) :
    ¬ AllOrNothing P files privatePath publicPath
      (writeKeypair P umask drawn privatePath publicPath privateAnswers publicAnswers) := by
  intro hall
  have hspec := wp_and hall (writeKeypair_spec P umask drawn privateAnswers publicAnswers)
  rw [wp] at hspec
  obtain ⟨hall, ⟨-, -, hwritten, -⟩ | ⟨-, hnone, -⟩ | ⟨⟨e, hr⟩, -, -, file, hfiles⟩⟩ := hspec
  · exact hnot hwritten
  · exact hnone hcreated
  · rw [hr] at hall
    -- the public path was free before the call
    have hleft := congrFun (hall.symm.trans hfiles) publicPath
    rw [hcreated.2.1, Function.update_self] at hleft
    cases hleft

/-- **When `write_keypair` is all or nothing.** Whatever files there are and whichever
operations fail: unless the public file is created and then not written. -/
theorem writeKeypair_atomic_iff (hP : P.LawfulX25519) (umask : ℕ) {drawn : Bytes}
    (hdrawn : drawn.length = x25519KeySize) (files : KeyFiles) (privatePath publicPath : String)
    (privateAnswers publicAnswers : FileAnswers) :
    AllOrNothing P files privatePath publicPath
        (writeKeypair P umask drawn privatePath publicPath privateAnswers publicAnswers)
      ↔ (PublicCreated files privatePath publicPath privateAnswers publicAnswers →
          publicAnswers.Written) := by
  constructor
  · intro hall hcreated
    by_contra hnot
    exact writeKeypair_leaves P umask drawn hcreated hnot hall
  · intro hwritten
    refine wp_mono (writeKeypair_spec P umask drawn privateAnswers publicAnswers) ?_
    rintro r files' t (⟨rfl, hcreated, -, rfl⟩ | ⟨⟨e, rfl⟩, -, rfl⟩ | ⟨-, hcreated, hnot, -⟩)
    · obtain ⟨hfree, hfree', hne, -⟩ := hcreated
      refine ⟨⟨drawn, loadX25519PrivateKey_hexLine (ldiff_privateMode umask) hdrawn ?_,
        loadX25519PublicKey_hexLine (hP.length_public drawn) (Function.update_self ..)⟩, ?_⟩
      · rw [Function.update_of_ne hne.symm, Function.update_self]
      · intro path hpath
        rw [Function.update_of_ne, Function.update_of_ne]
        · rintro rfl
          rw [hfree] at hpath
          cases hpath
        · rintro rfl
          rw [hfree'] at hpath
          cases hpath
    · rfl
    · exact absurd (hwritten hcreated) hnot

end writeKeypair

/-! ## A full disk -/

/-- Every operation on a file succeeds. -/
def FileAnswers.good : FileAnswers := ⟨none, none, none, none⟩

/-- The disk is full when the file is closed. -/
def FileAnswers.full : FileAnswers :=
  ⟨none, none, none, some ⟨.osError "No space left on device", 0⟩⟩

/-- A directory without the two files, on a disk that has room for the private key only. -/
theorem writeKeypair_not_atomic :
    ¬ ∀ files privatePath publicPath privateAnswers publicAnswers,
      AllOrNothing sample files privatePath publicPath
        (writeKeypair sample 0o022 (List.replicate 32 7) privatePath publicPath privateAnswers
          publicAnswers) := by
  intro h
  refine writeKeypair_leaves sample 0o022 (List.replicate 32 7) ?_ ?_
    (h (fun _ => none) "identity.key" "identity.pub" .good .full)
  · exact ⟨rfl, rfl, by decide, rfl, ⟨rfl, rfl, rfl⟩, rfl⟩
  · exact fun hwritten => nomatch hwritten.2.2

/-- Two free paths and no failure. -/
theorem writeKeypair_atomic_sample :
    AllOrNothing sample (fun _ => none) "identity.key" "identity.pub"
      (writeKeypair sample 0o022 (List.replicate 32 7) "identity.key" "identity.pub" .good .good) :=
  (writeKeypair_atomic_iff sample_lawfulX25519 0o022 (List.length_replicate ..) _ _ _ _ _).2
    fun _ => ⟨rfl, rfl, rfl⟩

end MatfVpn
