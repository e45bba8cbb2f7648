import Upkeep.Key.Decode
import Upkeep.Spec.Error

/-!
What is said of everything that can go wrong, written out. The messages that are put together as
faults are passed on come to the same.
-/

set_option autoImplicit false

namespace Upkeep

/-! ### Faults -/

def IoFault.said : IoFault → String
  | .system number => s!"{systemText number} (os error {number})"
  | .custom text => text

theorem IoFault.message_eq_said (cause : IoFault) : cause.message = cause.said := by
  cases cause <;> rfl

def Hex.Error.said : Hex.Error → String
  | .oddLength => "Odd number of digits"
  | .invalidDigit byte index =>
    s!"Invalid character {Text.quotedChar (Char.ofNat byte.toNat)} at position {index}"

theorem Hex.Error.message_eq_said (e : Hex.Error) : e.message = e.said := by
  cases e <;> rfl

/-- How a command has ended that has been killed, or has left a status. -/
def saidStatus : Option Int → String
  | none => "signal"
  | some status => toString status

def Fault.said : Fault → String
  | .notFound path => s!"{path}: no such file or directory"
  | .io cause => s!"IO error: {cause.said}"
  | .command line status stderr =>
    s!"command `{line}` failed (exit status {saidStatus status}): {stderr}"
  | .remoteCommand line status stderr =>
    s!"remote command `{line}` failed (exit status {status}): {stderr}"
  | .hashOutput output cause => s!"could not parse hash output {Text.quoted output}: {cause.said}"
  | .unsupportedPlatform name => s!"unsupported platform: {name}"
  | .keyFile path reason => s!"key file {path}: {reason}"
  | .authenticationFailed username destination =>
    s!"authentication failed for {username}@{destination}"
  | .hostKey destination reason => s!"host key verification failed for {destination}: {reason}"
  | .remoteUnavailable machine =>
    s!"machine {machine} is remote, but this build has no SSH support (enable the `remote` feature)"
  | .assertionsFailed => "assertions failed"
  | .unknownAssertionKind kind => s!"unknown assertion kind: {kind}"
  | .unrecognisedActionKind kind => s!"unrecognised action kind: {kind}"
  | .nestingTooDeep limit => s!"nested assertions exceed the maximum depth of {limit}"

theorem Fault.message_eq_said (f : Fault) : f.message = f.said := by
  cases f with
  | io cause => exact congrArg ("IO error: " ++ ·) cause.message_eq_said
  | command line status stderr => cases status <;> rfl
  | hashOutput output cause =>
    exact congrArg (s!"could not parse hash output {Text.quoted output}: " ++ ·)
      cause.message_eq_said
  | _ => rfl

/-- With the cause once more, where there is one. -/
def Fault.saidFully : Fault → String
  | .io cause => s!"IO error: {cause.said}: {cause.said}"
  | .hashOutput output cause =>
    s!"could not parse hash output {Text.quoted output}: {cause.said}: {cause.said}"
  | f => f.said

theorem Fault.fullMessage_eq_said (f : Fault) : f.fullMessage = f.saidFully := by
  unfold fullMessage saidFully
  rw [f.message_eq_said]
  cases f with
  | io cause =>
    simp only [cause.message_eq_said]
    rfl
  | hashOutput output cause =>
    simp only [cause.message_eq_said]
    rfl
  | _ => rfl

/-! ### Key files -/

def Key.Flaw.said (words : Key.Words) (text : String) : Key.Flaw → String
  | .notKey => "not a PEM or OpenSSH private key"
  | .needsPassphrase => "passphrase-protected keys are not supported"
  | .malformed label =>
    if label = "OPENSSH PRIVATE KEY".toList then
      s!"invalid OpenSSH private key: {words label text}"
    else s!"invalid {String.ofList label}: {words label text}"

theorem Key.Flaw.message_eq_said (words : Key.Words) (text : String) (flaw : Key.Flaw) :
    flaw.message words text = flaw.said words text := by
  cases flaw with
  | malformed label =>
    by_cases h : label = OpenSsh.label
    · exact (congrArg (· ++ ": " ++ words label text) (if_pos h)).trans (if_pos h).symm
    · exact (congrArg (· ++ ": " ++ words label text) (if_neg h)).trans (if_neg h).symm
  | _ => rfl

/-! ### Files of specifications -/

def AssertionFlaw.said : AssertionFlaw → String
  | .unnamed => "name must be specified for an assertion"
  | .noPath => "file_path must be specified for exists and !exists assertions"
  | .noHash => "hash/file_path must be specified for md5_match assertions"
  | .malformedHash => "hash must be a 32-digit hex MD5 digest for md5_match assertions"
  | .noReference => "base_path/file_path must be specified for file_match assertions"
  | .noPattern => "regex/file_path must be specified for regex_contents_match assertions"
  | .unsupportedKind kind => s!"unsupported assertion type/kind: {kind}"
  | .noCopyPaths => "source_path/destination_path must be specified for COPY actions"
  | .emptySet => "at least one assertion must exist for ASSERT actions"
  | .unsupportedAction kind => s!"unsupported action type/kind: {kind}"
  | .inside name flaw => s!"assertion {Text.quoted name}: {flaw.said}"
  | .nested flaw => s!"nested ASSERT action: {flaw.said}"

theorem AssertionFlaw.message_eq_said (flaw : AssertionFlaw) : flaw.message = flaw.said := by
  induction flaw with
  | inside name flaw ih => exact congrArg (s!"assertion {Text.quoted name}: " ++ ·) ih
  | nested flaw ih => exact congrArg ("nested ASSERT action: " ++ ·) ih
  | _ => rfl

def CredentialFlaw.said : CredentialFlaw → String
  | .noKind => "auth kind must be specified"
  | .noPassword => "Password must be specified for password authentication"
  | .noKey => "key must be specified for key-file authentication"

def MachineFlaw.said : MachineFlaw → String
  | .noDestination => "destination must be specified for ssh machines"
  | .noUsername => "username must be specified for ssh machines"
  | .credential position flaw => s!"auth entry {position}: {flaw.said}"

def FleetFlaw.said (f : FleetFlaw) : String := s!"machine {Text.quoted f.machine}: {f.flaw.said}"

theorem FleetFlaw.message_eq_said (f : FleetFlaw) : f.message = f.said := by
  obtain ⟨name, flaw⟩ := f
  cases flaw with
  | credential position flaw => cases flaw <;> rfl
  | _ => rfl

def Format.said : Format → String
  | .json => "JSON"
  | .toml => "TOML"
  | .hcl => "HCL"

theorem Format.name_eq_said (format : Format) : format.name = format.said := by
  cases format <;> rfl

/-- Why a file is refused. -/
def SpecError.said (words : SpecWords) : SpecError → String
  | .unreadable path cause => s!"Failed to read {path}: {cause.said}"
  | .undecodable none format text => s!"Failed to parse {format.said}: {words format text}"
  | .undecodable (some path) format text =>
    s!"Invalid spec file {path}: Failed to parse {format.said}: {words format text}"
  | .flawedAssertions none flaw => flaw.said
  | .flawedAssertions (some path) flaw => s!"Invalid assertions in {path}: {flaw.said}"
  | .flawedMachines none flaw => flaw.said
  | .flawedMachines (some path) flaw => s!"Invalid targets in {path}: {flaw.said}"

theorem SpecError.message_eq_said (words : SpecWords) (e : SpecError) :
    e.message words = e.said words := by
  cases e with
  | unreadable path cause =>
    exact congrArg (s!"Failed to read {path}: " ++ ·) cause.message_eq_said
  | undecodable path format text =>
    change inFile "Invalid spec file" path ++ "Failed to parse " ++ format.name ++ ": " ++
      words format text = _
    rw [format.name_eq_said]
    cases path with
    | none => exact congrArg (· ++ format.said ++ ": " ++ words format text) String.empty_append
    | some path =>
      have hjoin : inFile "Invalid spec file" (some path) ++ "Failed to parse " =
          s!"Invalid spec file {path}: Failed to parse " :=
        String.append_assoc ..
      rw [hjoin]
      rfl
  | flawedAssertions path flaw =>
    change inFile "Invalid assertions in" path ++ flaw.message = _
    rw [flaw.message_eq_said]
    cases path with
    | none => exact String.empty_append
    | some path => rfl
  | flawedMachines path flaw =>
    change inFile "Invalid targets in" path ++ flaw.message = _
    rw [flaw.message_eq_said]
    cases path with
    | none => exact String.empty_append
    | some path => rfl

end Upkeep
