import Mathlib.Data.Char
import Mathlib.Data.List.Lex
import NostrDoubleRatchet.Lib.FaultyDisk
import NostrDoubleRatchet.Lib.HexText
import NostrDoubleRatchet.Pairwise.Manager
import NostrDoubleRatchet.Text

/-!
The file store of the pairwise manager, as in `storage.rs`: one file for each generation, which
is written under a private name, synced and renamed to its own. A call holds the lock of the
folder, so calls do not overlap. The texts of the system's errors are given by the error.
-/

namespace NostrDoubleRatchet

namespace FileStore

open FaultyDisk Program

def STATE_PREFIX : String := "ndr-pairwise-state-v1-"
def STATE_SUFFIX : String := ".json"
def TEMP_PREFIX : String := ".ndr-pairwise-state-v1-"
def TEMP_SUFFIX : String := ".tmp"
def LOCK_FILE_NAME : String := ".ndr-pairwise-state-v1.lock"
def MAX_FILE_STORE_PAYLOAD_BYTES : Nat := 32 * 1024 * 1024

/-- A name of a file, as its characters. -/
abbrev FileName := List Char

abbrev Bytes := List UInt8

abbrev FileStoreM (K α : Type) :=
  Program (Interrupt (PairwiseError K)) (Machine FileName UInt8) α

/-- What fails with a `Storage` error only, given by its message. -/
abbrev StorageM (α : Type) := Program (Interrupt String) (Machine FileName UInt8) α

variable {K α : Type}

/-! The names. -/

/-- `Uuid`. -/
structure Uuid where
  bytes : List UInt8
  length_eq : bytes.length = 16

/-- Lower case digits in groups of 8, 4, 4, 4 and 12. -/
def hyphenated (bytes : List UInt8) : FileName :=
  let digits := HexText.digits bytes
  digits.take 8 ++ '-' :: (digits.drop 8).take 4 ++ '-' :: (digits.drop 12).take 4 ++
    '-' :: (digits.drop 16).take 4 ++ '-' :: digits.drop 20

/-- `format!("{generation:020}")`. -/
def paddedGeneration (generation : Nat) : FileName :=
  (Nat.toDigits 10 generation).leftpad 20 '0'

def statePath (generation : Nat) : FileName :=
  STATE_PREFIX.toList ++ paddedGeneration generation ++ STATE_SUFFIX.toList

def temporaryPath (generation : Nat) (nonce : Uuid) : FileName :=
  TEMP_PREFIX.toList ++ paddedGeneration generation ++ '.' :: hyphenated nonce.bytes ++
    TEMP_SUFFIX.toList

def lockPath : FileName := LOCK_FILE_NAME.toList

/-- What is between a prefix and a suffix that do not overlap. -/
def strip (start finish name : FileName) : Option FileName :=
  if start.isPrefixOf name && finish.isSuffixOf (name.drop start.length) then
    some ((name.drop start.length).take (name.length - start.length - finish.length))
  else none

def invalidFilename (name : FileName) : PairwiseError K :=
  .corruptState ("invalid pairwise state filename " ++ "\x60" ++ String.ofList name ++ "\x60")

def parseGenerationFilename (name : FileName) : Except (PairwiseError K) (Option Nat) :=
  match strip STATE_PREFIX.toList STATE_SUFFIX.toList name with
  | none => .ok none
  | some rawGeneration =>
      if rawGeneration.length ≠ 20 || !rawGeneration.all Char.isDigit then
        .error (invalidFilename name)
      else
        match parseU64 (String.ofList rawGeneration) with
        | none => .error (invalidFilename name)
        | some generation =>
            if paddedGeneration generation ≠ rawGeneration then .error (invalidFilename name)
            else .ok (some generation)

/-- `Uuid::parse_str` reads the text, and it is the one the identifier is written as. -/
def isCanonicalUuid (text : FileName) : Bool :=
  match HexText.bytes (text.filter (· ≠ '-')) with
  | none => false
  | some bytes => bytes.length = 16 && hyphenated bytes = text

def isPrivateTemporaryFilename (name : FileName) : Bool :=
  match strip TEMP_PREFIX.toList TEMP_SUFFIX.toList name with
  | none => false
  | some body =>
      let (generation, rest) := body.span (· ≠ '.')
      match rest with
      | [] => false
      | _ :: nonce =>
          generation.length = 20 && generation.all Char.isDigit &&
            (parseU64 (String.ofList generation)).isSome && isCanonicalUuid nonce

/-! The checks. -/

def previousGeneration (generation : Nat) : Except (PairwiseError K) Nat :=
  if generation = 0 then .error (.storage "state generation zero cannot be committed")
  else .ok (generation - 1)

def ensureCurrentGeneration (generation expected current : Nat) : Except (PairwiseError K) Unit :=
  if current ≠ expected then
    .error (.storage (s!"stale state commit for generation {generation}: expected durable " ++
      s!"generation {expected}, found {current}"))
  else .ok ()

def ensureFilePayloadSize (length : Nat) : Except (PairwiseError K) Unit :=
  if length > MAX_FILE_STORE_PAYLOAD_BYTES then
    .error (.inputTooLarge "pairwise state" MAX_FILE_STORE_PAYLOAD_BYTES)
  else .ok ()

/-! The calls of the file system. -/

def storageError (operation : String) (error : IoError) : String :=
  operation ++ ": " ++ error.message

def io (operation : String) (x : DiskM FileName UInt8 α) : StorageM α :=
  mapFailure (storageError operation) x

def storage (x : StorageM α) : FileStoreM K α := mapFailure PairwiseError.storage x

def check (result : Except (PairwiseError K) α) : FileStoreM K α :=
  Program.ofExcept (result.mapError Interrupt.failed)

def syncDirectory : StorageM Unit := do
  io "open state directory" touch
  io "sync state directory" syncFolder

def acquireLock : StorageM Unit := do
  io "open state lock" (openOrCreate lockPath)
  io "set private file permissions" touch
  io "lock state file" touch

/-! `visit_generations_locked`. A visitor goes on after a failure of its own. -/

def visitEntries (visitor : Nat → FileName → α → FileStoreM K α) :
    List (FileName × Bool) → α → FileStoreM K (α × Except (PairwiseError K) Unit)
  | [], found => pure (found, .ok ())
  | (name, isFile) :: rest, found => do
      let entry ← attempt (storage (do
        io "read state entry" touch
        io "read state entry type" touch))
      match entry with
      | .error error => pure (found, .error error)
      | .ok () =>
          if !isFile then visitEntries visitor rest found
          else
            match parseGenerationFilename name with
            | .error error => pure (found, .error error)
            | .ok none => visitEntries visitor rest found
            | .ok (some generation) => do
                let next ← visitor generation name found
                visitEntries visitor rest next

def visitGenerationsLocked (visitor : Nat → FileName → α → FileStoreM K α) (start : α) :
    FileStoreM K (α × Except (PairwiseError K) Unit) := do
  let entries ← attempt (storage (io "read state directory" readDir))
  match entries with
  | .error error => pure (start, .error error)
  | .ok entries => visitEntries visitor entries start

def keepHigher (generation : Nat) (path : FileName) (highest : Option (Nat × FileName)) :
    Option (Nat × FileName) :=
  if highest.all (fun current => current.1 < generation) then some (generation, path) else highest

def highestGenerationLocked : FileStoreM K (Option (Nat × FileName)) := do
  let (highest, result) ← visitGenerationsLocked
    (fun generation path highest => pure (keepHigher generation path highest)) none
  check result
  pure highest

/-! The removals, which end alike: a sync after a removal, then the first error. -/

structure Sweep (K : Type) where
  removed : Bool
  firstError : Option (PairwiseError K)

def Sweep.note (sweep : Sweep K) (error : PairwiseError K) : Sweep K :=
  { sweep with firstError := sweep.firstError.or (some error) }

def Sweep.sync (sweep : Sweep K) : FileStoreM K (Except (PairwiseError K) Unit) :=
  if sweep.removed then attempt (storage syncDirectory) else pure (.ok ())

def Sweep.finish (sweep : Sweep K) : FileStoreM K Unit := do
  let synced ← sweep.sync
  match sweep.firstError with
  | some error => fail error
  | none => check synced

/-- Remove a file, and go on if that fails. -/
def Sweep.remove (operation : String) (sweep : Sweep K) (path : FileName) :
    FileStoreM K (Sweep K) := do
  let result ← attempt (storage (io operation (removeFile path)))
  match result with
  | .ok () => pure { sweep with removed := true }
  | .error error => pure (sweep.note error)

def removeTemporaries : List (FileName × Bool) → Sweep K → FileStoreM K (Sweep K)
  | [], sweep => pure sweep
  | (name, _) :: rest, sweep => do
      let entry ← attempt (storage (io "read state entry for temp recovery" touch))
      match entry with
      | .error error => removeTemporaries rest (sweep.note error)
      | .ok () =>
          if !isPrivateTemporaryFilename name then removeTemporaries rest sweep
          else do
            let sweep ← sweep.remove "remove stale temporary state" name
            removeTemporaries rest sweep

def recoverStaleTemporariesLocked : FileStoreM K Unit := do
  let entries ← storage (io "read state directory for temp recovery" readDir)
  let sweep ← removeTemporaries entries ⟨false, none⟩
  sweep.finish

def removeOlder (generation stored : Nat) (path : FileName) (sweep : Sweep K) :
    FileStoreM K (Sweep K) :=
  if stored ≥ generation then pure sweep else sweep.remove "remove older pairwise state" path

def removeOlderGenerationsLocked (generation : Nat) : FileStoreM K Unit := do
  let (sweep, visitResult) ← visitGenerationsLocked (removeOlder generation) ⟨false, none⟩
  match visitResult with
  | .error error => (sweep.note error).finish
  | .ok () => sweep.finish

/-! Reading and publishing a state. -/

def ensure (condition : Bool) (error : PairwiseError K) : Except (PairwiseError K) Unit :=
  if condition then .ok () else .error error

def readStateLocked (path : FileName) : FileStoreM K Bytes := do
  let _ ← storage (io "open pairwise state" (fileLength path))
  let length ← storage (io "read pairwise state metadata" (fileLength path))
  check (ensure (length ≠ 0) (.corruptState "pairwise state file is empty"))
  check (ensureFilePayloadSize length)
  storage (io "allocate pairwise state buffer" touch)
  let payload ← mapFailure (fun error =>
    if error.kind = .unexpectedEof then
      .corruptState "pairwise state file became shorter while reading"
    else .storage (storageError "read pairwise state" error)) (readExact path length)
  let extra ← storage (io "check pairwise state length" (readAfter path length 1))
  let finalLength ← storage (io "recheck pairwise state metadata" (fileLength path))
  check (ensure (extra.length = 0 && finalLength = length)
    (.corruptState "pairwise state file changed size while reading"))
  pure payload

def discardTemporaryLocked (temporary : FileName) : StorageM Unit := do
  let removed ← attempt (removeFile temporary)
  match removed with
  | .ok () => syncDirectory
  | .error error =>
      if error.kind = .notFound then pure ()
      else fail (storageError "remove temporary state" error)

/-- A part of a rollback: the message of its error, if it has one. -/
def rollbackRemove (operation : String) (path : FileName) : StorageM (Option String) := do
  let removed ← attempt (removeFile path)
  match removed with
  | .ok () => pure none
  | .error error =>
      if error.kind = .notFound then pure none else pure (some (storageError operation error))

/-- `to_string` of a `Storage` error. -/
def displayStorage (message : String) : String := "storage error: " ++ message

def rollbackError (cause : String) (cleanupErrors : List String) : String :=
  if cleanupErrors.isEmpty then cause
  else displayStorage cause ++ "; rollback also failed: " ++
    "; ".intercalate (cleanupErrors.map displayStorage)

def rollbackDestination : Option FileName → StorageM (Option String)
  | some destination => rollbackRemove "roll back published state" destination
  | none => pure none

/-- The message of the error after a rollback for `cause`. -/
def rollbackPublishLocked (temporary : FileName) (destination : Option FileName)
    (cause : String) : StorageM String := do
  let published ← rollbackDestination destination
  let unfinished ← rollbackRemove "roll back temporary state" temporary
  let synced ← attempt syncDirectory
  let unsynced := match synced with
    | .ok () => none
    | .error message => some message
  pure (rollbackError cause (published.toList ++ unfinished.toList ++ unsynced.toList))

def publishTemporaryLocked (temporary destination : FileName) : StorageM Unit := do
  let destinationExists ← attempt (io "check pairwise state destination" (tryExists destination))
  match destinationExists with
  | .error cause => fail (← rollbackPublishLocked temporary none cause)
  | .ok true =>
      fail (← rollbackPublishLocked temporary none
        "refusing to replace existing pairwise state generation")
  | .ok false =>
      let renamed ← attempt (io "publish pairwise state" (rename temporary destination))
      match renamed with
      | .error cause => fail (← rollbackPublishLocked temporary none cause)
      | .ok () => pure ()

def cleanupAfterDurablePublishLocked (temporary : FileName) (generation : Nat) :
    FileStoreM K Unit := do
  let temporaryResult ← attempt (storage (discardTemporaryLocked temporary))
  let generationsResult ← attempt (removeOlderGenerationsLocked generation)
  match temporaryResult with
  | .error error => fail error
  | .ok () => check generationsResult

/-! The methods. -/

/-- The folder itself is there once `create_dir_all` returns. -/
def new : FileStoreM K Unit := do
  storage (io "create state directory" touch)
  storage (io "set state directory permissions" touch)
  storage acquireLock
  storage syncDirectory
  recoverStaleTemporariesLocked

def load : FileStoreM K (Option Bytes) := do
  storage acquireLock
  recoverStaleTemporariesLocked
  let highest ← highestGenerationLocked
  match highest with
  | none => pure none
  | some (_, path) => some <$> readStateLocked path

/-- The content of a file under its private name, synced. Flushing a file is no call. -/
def writeTemporary (temporary : FileName) (payload : Bytes) : StorageM Unit := do
  io "create temporary state" (createNew temporary)
  io "write temporary state" (writeAll temporary payload)
  io "sync temporary state" (syncFile temporary)

/-- The end of `commit`, from the sync of the folder on. -/
def settleState (generation : Nat) (temporary destination : FileName) : FileStoreM K Unit := do
  let durable ← attempt syncDirectory
  match durable with
  | .error cause => storage (do fail (← rollbackPublishLocked temporary (some destination) cause))
  | .ok () =>
      let _ ← attempt (ε := PairwiseError K)
        (cleanupAfterDurablePublishLocked temporary generation)
      pure ()

def commit (generation : Nat) (payload : Bytes) (nonce : Uuid) : FileStoreM K Unit := do
  check (ensureFilePayloadSize payload.length)
  let expected ← check (previousGeneration generation)
  storage acquireLock
  recoverStaleTemporariesLocked
  let highest ← highestGenerationLocked
  let current := (highest.map Prod.fst).getD 0
  check (ensureCurrentGeneration generation expected current)
  let destination := statePath generation
  let temporary := temporaryPath generation nonce
  let written ← attempt (writeTemporary temporary payload)
  match written with
  | .error cause => storage (do fail (← rollbackPublishLocked temporary none cause))
  | .ok () =>
      storage (publishTemporaryLocked temporary destination)
      settleState generation temporary destination

def cleanup (generation : Nat) : FileStoreM K Unit := do
  let lock ← attempt acquireLock
  match lock with
  | .error _ => pure ()
  | .ok () =>
      let _ ← attempt (ε := PairwiseError K) (removeOlderGenerationsLocked generation)
      pure ()

/-! What the names say. -/

theorem strip_eq_some {start finish name body : FileName} :
    strip start finish name = some body ↔ name = start ++ body ++ finish := by
  unfold strip
  constructor
  · intro h
    split at h
    · rename_i hfits
      rw [Bool.and_eq_true, List.isPrefixOf_iff_prefix, List.isSuffixOf_iff_suffix] at hfits
      obtain ⟨⟨rest, rfl⟩, hsuffix⟩ := hfits
      rw [List.drop_left] at hsuffix h
      obtain ⟨middle, rfl⟩ := hsuffix
      cases h
      have hlength : (start ++ (middle ++ finish)).length - start.length - finish.length =
          middle.length := by
        simp only [List.length_append]
        omega
      rw [hlength, List.take_left, List.append_assoc]
    · cases h
  · rintro rfl
    have hdrop : (start ++ body ++ finish).drop start.length = body ++ finish := by
      rw [List.append_assoc, List.drop_left]
    have hlength : (start ++ body ++ finish).length - start.length - finish.length =
        body.length := by
      simp only [List.length_append]
      omega
    have hprefix : start.isPrefixOf (start ++ body ++ finish) = true := by
      rw [List.isPrefixOf_iff_prefix, List.append_assoc]
      exact List.prefix_append _ _
    have hsuffix : finish.isSuffixOf (body ++ finish) = true := by
      rw [List.isSuffixOf_iff_suffix]
      exact List.suffix_append _ _
    rw [hdrop, hprefix, hsuffix, hlength, List.take_left]
    rfl

theorem length_paddedGeneration {generation : Nat} (h : generation ≤ u64Max) :
    (paddedGeneration generation).length = 20 := by
  have hdigits : (Nat.toDigits 10 generation).length ≤ 20 := by
    rw [Nat.length_toDigits_le_iff (by decide) (by decide)]
    unfold u64Max at h
    omega
  rw [paddedGeneration, List.leftpad, List.length_append, List.length_replicate]
  omega

theorem isDigit_of_mem_padded {generation : Nat} :
    ∀ c ∈ paddedGeneration generation, c.isDigit = true := by
  intro c hc
  rcases List.mem_append.mp hc with hzero | hdigit
  · rw [List.eq_of_mem_replicate hzero]
    decide
  · exact Nat.isDigit_of_mem_toDigits (by decide) (by decide) hdigit

theorem foldl_replicate_zero (n : Nat) (digits : List Char) :
    (List.replicate n '0' ++ digits).foldl (fun m c => 10 * m + (c.toNat - '0'.toNat)) 0 =
      digits.foldl (fun m c => 10 * m + (c.toNat - '0'.toNat)) 0 := by
  induction n with
  | zero => rfl
  | succ n ih => exact ih

theorem parseU64_padded {generation : Nat} (h : generation ≤ u64Max) :
    parseU64 (String.ofList (paddedGeneration generation)) = some generation := by
  have hall : ∀ c ∈ paddedGeneration generation, c.isDigit = true := isDigit_of_mem_padded
  have hvalue : (paddedGeneration generation).foldl
      (fun m c => 10 * m + (c.toNat - '0'.toNat)) 0 = generation := by
    rw [paddedGeneration, List.leftpad, foldl_replicate_zero, ← Nat.ofDigitChars_eq_foldl]
    exact Nat.ofDigitChars_ten_toDigits
  have hne : paddedGeneration generation ≠ [] := by
    intro hnil
    have hlength := length_paddedGeneration h
    rw [hnil] at hlength
    cases hlength
  unfold parseU64
  rw [String.toList_ofList]
  generalize paddedGeneration generation = digits at hall hvalue hne
  dsimp only
  split
  · exact absurd (hall '+' List.mem_cons_self) (by decide)
  · rw [hvalue, if_pos ⟨hne, List.all_eq_true.mpr hall, h⟩]

theorem le_of_parseU64 {text : String} {value : Nat} (h : parseU64 text = some value) :
    value ≤ u64Max := by
  unfold parseU64 at h
  obtain ⟨⟨-, -, hle⟩, hvalue⟩ := Option.ite_none_right_eq_some.mp h
  cases hvalue
  exact hle

/-- The generation in a name that is taken for one is the generation the name is made from. -/
theorem parseGenerationFilename_eq_some {name : FileName} {generation : Nat} :
    parseGenerationFilename (K := K) name = .ok (some generation) ↔
      name = statePath generation ∧ generation ≤ u64Max := by
  unfold parseGenerationFilename
  constructor
  · intro h
    split at h
    · cases h
    · rename_i raw hraw
      split at h
      · cases h
      · split at h
        · cases h
        · rename_i read hread
          split at h
          · cases h
          · rename_i hpadded
            cases h
            refine ⟨?_, le_of_parseU64 hread⟩
            rw [statePath, not_not.mp hpadded]
            exact strip_eq_some.mp hraw
  · rintro ⟨rfl, hle⟩
    have hstrip : strip STATE_PREFIX.toList STATE_SUFFIX.toList (statePath generation) =
        some (paddedGeneration generation) := strip_eq_some.mpr rfl
    rw [hstrip]
    dsimp only
    have hall : (paddedGeneration generation).all Char.isDigit = true :=
      List.all_eq_true.mpr isDigit_of_mem_padded
    rw [if_neg (by simp [length_paddedGeneration hle, hall]), parseU64_padded hle]
    dsimp only
    rw [if_neg (not_not.mpr rfl)]

theorem statePath_injective {first second : Nat} (hfirst : first ≤ u64Max)
    (h : statePath first = statePath second) (hsecond : second ≤ u64Max) : first = second := by
  have hparse := (parseGenerationFilename_eq_some (K := Unit)).mpr ⟨rfl, hfirst⟩
  rw [h, parseGenerationFilename_eq_some.mpr ⟨rfl, hsecond⟩] at hparse
  cases hparse
  rfl

theorem head?_statePath (generation : Nat) : (statePath generation).head? = some 'n' := by
  unfold statePath STATE_PREFIX
  rw [List.append_assoc]
  rfl

theorem temporaryPath_ne_statePath (generation : Nat) (nonce : Uuid) (other : Nat) :
    temporaryPath generation nonce ≠ statePath other := by
  intro h
  have hhead : (temporaryPath generation nonce).head? = some '.' := by
    unfold temporaryPath TEMP_PREFIX
    simp only [List.append_assoc]
    rfl
  rw [h, head?_statePath] at hhead
  cases hhead

theorem lockPath_ne_statePath (generation : Nat) : lockPath ≠ statePath generation := by
  intro h
  have hhead := head?_statePath generation
  rw [← h] at hhead
  cases hhead

/-- A file that the recovery removes is not a state. -/
theorem private_ne_statePath {name : FileName} (h : isPrivateTemporaryFilename name = true)
    (generation : Nat) : name ≠ statePath generation := by
  rintro rfl
  unfold isPrivateTemporaryFilename at h
  split at h
  · cases h
  · rename_i body hbody
    have hname := strip_eq_some.mp hbody
    have hhead := head?_statePath generation
    rw [hname] at hhead
    unfold TEMP_PREFIX at hhead
    simp only [List.append_assoc] at hhead
    cases hhead

/-! The private names that are written are those that the recovery removes. -/

theorem hyphen_not_mem_digits {bytes : List UInt8} : '-' ∉ HexText.digits bytes := by
  intro hmem
  obtain ⟨byte, -, hbyte⟩ := List.mem_flatMap.mp hmem
  have hne : ∀ n : Fin 16, HexText.digit n.val ≠ '-' := by decide
  have hhigh : byte.toNat / 16 < 16 := by
    have hlt : byte.toNat < 256 := byte.toNat_lt
    omega
  have hlow : byte.toNat % 16 < 16 := Nat.mod_lt _ (by decide)
  simp only [List.mem_cons, List.not_mem_nil, or_false] at hbyte
  rcases hbyte with hbyte | hbyte
  · exact hne ⟨_, hhigh⟩ hbyte.symm
  · exact hne ⟨_, hlow⟩ hbyte.symm

theorem filter_hyphenated (bytes : List UInt8) :
    (hyphenated bytes).filter (· ≠ '-') = HexText.digits bytes := by
  have hkeep : ∀ digits : List Char, (∀ c ∈ digits, c ∈ HexText.digits bytes) →
      digits.filter (· ≠ '-') = digits := by
    intro digits hdigits
    apply List.filter_eq_self.mpr
    intro c hc
    apply decide_eq_true
    rintro rfl
    exact hyphen_not_mem_digits (hdigits _ hc)
  unfold hyphenated
  dsimp only
  generalize hall : HexText.digits bytes = digits at hkeep
  have hdrop : ∀ n, ∀ c ∈ digits.drop n, c ∈ digits := fun n c => List.mem_of_mem_drop
  have htake : ∀ n m, ∀ c ∈ (digits.drop n).take m, c ∈ digits :=
    fun n m c hc => List.mem_of_mem_drop (List.mem_of_mem_take hc)
  have hhyphen : ∀ rest : List Char,
      ('-' :: rest).filter (· ≠ '-') = rest.filter (· ≠ '-') := fun _ => rfl
  have hfirst : ∀ c ∈ digits.take 8, c ∈ digits := fun c => List.mem_of_mem_take
  simp only [List.filter_append, hhyphen]
  rw [hkeep _ hfirst, hkeep _ (htake 8 4), hkeep _ (htake 12 4), hkeep _ (htake 16 4),
    hkeep _ (hdrop 20)]
  have hsplit : ∀ n m, (digits.drop n).take m ++ digits.drop (n + m) = digits.drop n := by
    intro n m
    rw [← List.drop_drop, List.take_append_drop]
  have hlast := hsplit 16 4
  have hthird := hsplit 12 4
  have hsecond := hsplit 8 4
  simp only [List.append_assoc]
  rw [hlast, hthird, hsecond, List.take_append_drop]

theorem isCanonicalUuid_hyphenated (nonce : Uuid) :
    isCanonicalUuid (hyphenated nonce.bytes) = true := by
  unfold isCanonicalUuid
  rw [filter_hyphenated, HexText.bytes_digits]
  simp [nonce.length_eq]

theorem isPrivateTemporaryFilename_temporaryPath {generation : Nat} (h : generation ≤ u64Max)
    (nonce : Uuid) : isPrivateTemporaryFilename (temporaryPath generation nonce) = true := by
  have hstrip : strip TEMP_PREFIX.toList TEMP_SUFFIX.toList (temporaryPath generation nonce) =
      some (paddedGeneration generation ++ '.' :: hyphenated nonce.bytes) := by
    rw [strip_eq_some]
    unfold temporaryPath
    simp only [List.append_assoc, List.cons_append]
  have hspan : (paddedGeneration generation ++ '.' :: hyphenated nonce.bytes).span (· ≠ '.') =
      (paddedGeneration generation, '.' :: hyphenated nonce.bytes) := by
    have hdots : ∀ c ∈ paddedGeneration generation, decide (c ≠ '.') = true := by
      intro c hc
      apply decide_eq_true
      rintro rfl
      exact absurd (isDigit_of_mem_padded '.' hc) (by decide)
    rw [List.span_eq_takeWhile_dropWhile, List.takeWhile_append_of_pos hdots,
      List.dropWhile_append_of_pos hdots]
    simp
  have hall : (paddedGeneration generation).all Char.isDigit = true :=
    List.all_eq_true.mpr isDigit_of_mem_padded
  unfold isPrivateTemporaryFilename
  rw [hstrip]
  dsimp only
  rw [hspan]
  simp [length_paddedGeneration h, hall, parseU64_padded h, isCanonicalUuid_hyphenated]

end FileStore

end NostrDoubleRatchet
