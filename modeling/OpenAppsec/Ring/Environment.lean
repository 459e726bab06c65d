import Mathlib.Algebra.Group.Int.Defs
import OpenAppsec.Ring.SharedMemory

/-!
# Negotiation of the segment size

The size of a segment is read from the process environment, into which the
agent's metadata file may first be imported.  An existing queue is decoded
back to its segment size from the header its owner stamped.
-/

namespace OpenAppsec.Ring

/-- The environment variables of a process. -/
abbrev Environ := CString → Option CString

/-- `AGENT_METADATA_FILE_PATH` as `stat`, `fopen` and `getline` show it. -/
inductive AgentMetadata where
  | missing
  | unreadable
  | lines (content : List CString)

/-- What a process reads from its host; it does not change during a run. -/
structure Host where
  /-- `access(DUAL_DOCKER_NGINX_FILE, F_OK) == 0` -/
  dualDockerNginxFile : Bool
  agentMetadata : AgentMetadata

/-- A container of the split deployment that finds no agent metadata. -/
def dualDockerHost : Host :=
  { dualDockerNginxFile := true
    agentMetadata := .missing }

/-- A host outside the split deployment. -/
def singleDockerHost : Host :=
  { dualDockerNginxFile := false
    agentMetadata := .missing }

def effectiveShmSegmentSize : CString :=
  "EFFECTIVE_SHM_SEGMENT_SIZE".toList

def infinityNextNanoAgent : CString :=
  "INFINITY_NEXT_NANO_AGENT".toList

def setenv (environ : Environ) (key value : CString) : Environ :=
  fun name => if name = key then some value else environ name

def isSpace (character : Char) : Bool :=
  character = ' ' || (9 ≤ character.toNat && character.toNat ≤ 13)

def decimalValue (digits : List Char) : Nat :=
  digits.foldl (fun value digit => value * 10 + (digit.toNat - 48)) 0

/-- `atoi`: `strtol` in base ten, saturating at the bounds of `long`, then
converted to `int`. -/
def atoi (text : CString) : Int :=
  let trimmed := text.dropWhile isSpace
  let negative := trimmed.head? = some '-'
  let unsigned :=
    if trimmed.head? = some '-' ∨ trimmed.head? = some '+' then
      trimmed.drop 1
    else
      trimmed
  let magnitude : Int := decimalValue (unsigned.takeWhile Char.isDigit)
  let value := if negative then -magnitude else magnitude
  (max (-2 ^ 63) (min (2 ^ 63 - 1) value)).bmod (2 ^ 32)

/-- One `key=value` line of the metadata file. -/
def importMetadataLine (environ : Environ) (line : CString) : Environ :=
  let key := line.takeWhile (· ≠ '=')
  let value := (line.dropWhile (· ≠ '=')).drop 1
  if key ≠ [] ∧ value ≠ [] then setenv environ key value else environ

/-- The reading of `EFFECTIVE_SHM_SEGMENT_SIZE` that both versions of
`isLargerDataSegmentSupported` share, with the environment it leaves. -/
def readLargerDataSegmentSupported (host : Host) (environ : Environ) :
    Bool × Environ :=
  match environ effectiveShmSegmentSize with
  | some size => (decide (atoi size > sharedMemorySegmentEntrySizeBC), environ)
  | none =>
      match host.agentMetadata with
      | .missing => (false, environ)
      | .unreadable => (false, environ)
      | .lines content =>
          let environ := content.foldl importMetadataLine environ
          match environ effectiveShmSegmentSize with
          | some size =>
              (decide (atoi size > sharedMemorySegmentEntrySizeBC), environ)
          | none => (false, environ)

end OpenAppsec.Ring
