import Upkeep.Key.OpenSsh
import Upkeep.Text.Occurrence

/-!
Private keys that can be used as they are: decoded before any connection is made, so that a file
that is no key, or needs a passphrase, is found out early.
-/

set_option autoImplicit false

namespace Upkeep.Key

inductive Flaw where
  | notKey
  | needsPassphrase
  /-- A key of this label that does not decode. -/
  | malformed (label : List Char)
  deriving DecidableEq, Repr

def encryptedLabel : List Char := "ENCRYPTED PRIVATE KEY".toList

/-- The header of keys that are encrypted inside of their armour. -/
def encryptedHeader : List Char := "Proc-Type: 4,ENCRYPTED".toList

/-- What a decoder of keys with this label says of a text that it cannot decode. -/
abbrev Words := (label : List Char) → (text : String) → String

def Flaw.message (words : Words) (text : String) : Flaw → String
  | .notKey => "not a PEM or OpenSSH private key"
  | .needsPassphrase => "passphrase-protected keys are not supported"
  | .malformed label =>
    (if label = OpenSsh.label then "invalid OpenSSH private key"
      else "invalid " ++ String.ofList label) ++ ": " ++ words label text

def check (s : String) : Except Flaw Unit :=
  match label? s with
  | none => .error .notKey
  | some label =>
    if label = OpenSsh.label then
      match OpenSsh.encryptedIn? s with
      | some false => .ok ()
      | some true => .error .needsPassphrase
      | none => .error (.malformed label)
    else if label = encryptedLabel || Text.occursIn encryptedHeader s.toList then
      .error .needsPassphrase
    else
      match armoured? usualWidth (Text.trim s) with
      | some (_, bs) => if isSequence bs then .ok () else .error (.malformed label)
      | none => .error (.malformed label)

end Upkeep.Key
