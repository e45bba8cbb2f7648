import Upkeep.Target.Op

/-!
What can be done on a machine: read, write, digest and search its files. A target is given by its
operations on a world, of which nothing else is known here.
-/

set_option autoImplicit false

namespace Upkeep

/-- A file that is open for writing. -/
structure Sink (σ : Type) where
  write : (block : Bytes) → Op σ Unit
  /-- Releases the file, and tells of what has failed until then. -/
  finish : Op σ Unit

structure Target (σ : Type) where
  name : String
  /-- Opens a file, which is read by the step that this gives. -/
  openRead : (path : String) → Op σ (Op σ Bytes)
  /-- Opens a file that from then on is empty, or is created. -/
  openWrite : (path : String) → Op σ (Sink σ)
  /-- The MD5 digest of a file. -/
  digest : (path : String) → Op σ Bytes
  /-- Whether some line of a file matches a pattern. -/
  search : (path pattern : String) → Op σ Bool
  /-- Releases the machine. -/
  close : Op σ Unit

variable {σ τ : Type}

def blockSize : Nat := 8192

namespace Sink

def send (sink : Sink σ) : List Bytes → Op σ Unit
  | [] => pure ()
  | block :: rest => do
    sink.write block
    send sink rest

/-- Writes a content that is all there at once. -/
def sendAll (sink : Sink σ) (content : Bytes) : Op σ Unit :=
  sink.send (Bytes.blocks (blockSize - 1) content)

def on (part : τ → σ) (replace : σ → τ → τ) (sink : Sink σ) : Sink τ where
  write block := (sink.write block).on part replace
  finish := sink.finish.on part replace

end Sink

namespace Target

def on (part : τ → σ) (replace : σ → τ → τ) (t : Target σ) : Target τ where
  name := t.name
  openRead path := do
    let content ← (t.openRead path).on part replace
    return content.on part replace
  openWrite path := do
    let sink ← (t.openWrite path).on part replace
    return sink.on part replace
  digest path := (t.digest path).on part replace
  search path pattern := (t.search path pattern).on part replace
  close := t.close.on part replace

end Target

end Upkeep
