/-!
Scratch buffers: the errors that a validation has collected and the path of the value that it is
looking at. The path grows by a step on the way down and is cut back on the way up; a cut is only
possible inside the path and between two characters.

Buffers that are not in use wait in a pool, the last one returned on top.
-/

namespace SchemaCheck

/-- The first bytes of a text, if they end between two characters. -/
def takeBytes? : Nat → List Char → Option (List Char)
  | 0, _ => some []
  | _ + 1, [] => none
  | count + 1, c :: rest =>
    if c.utf8Size ≤ count + 1 then (takeBytes? (count + 1 - c.utf8Size) rest).map (c :: ·) else none

structure Scratch where
  /-- Tells buffers apart: their number in the order in which they were made. -/
  serial : Nat
  errors : List String := []
  path : String := ""
deriving DecidableEq

namespace Scratch

def push (scratch : Scratch) (error : String) : Scratch :=
  { scratch with errors := scratch.errors ++ [error] }

def pushAll (scratch : Scratch) (errors : List String) : Scratch :=
  { scratch with errors := scratch.errors ++ errors }

def extend (scratch : Scratch) (text : String) : Scratch :=
  { scratch with path := scratch.path ++ text }

/-- The length to which the path is cut back after a step. -/
def mark (scratch : Scratch) : Nat := scratch.path.utf8ByteSize

def enterField (scratch : Scratch) (name : String) : Scratch :=
  (if scratch.path.isEmpty then scratch else scratch.extend ".").extend name

def enterElement (scratch : Scratch) (index : Nat) : Scratch :=
  scratch.extend ("[" ++ toString index ++ "]")

/-- Cuts the path back to a length in bytes, if that is a place of the path. -/
def cut? (scratch : Scratch) (mark : Nat) : Option Scratch :=
  (takeBytes? mark scratch.path.toList).map fun path => { scratch with path := String.ofList path }

def takeErrors (scratch : Scratch) : List String × Scratch :=
  (scratch.errors, { scratch with errors := [] })

def reset (scratch : Scratch) : Scratch := { scratch with errors := [], path := "" }

end Scratch

/-- Buffers that wait to be used again, the last one returned first. -/
structure ScratchPool where
  /-- How many buffers may wait. -/
  maxRetained : Nat := 32
  idle : List Scratch := []
  /-- How many buffers have been made. -/
  made : Nat := 0
deriving DecidableEq

namespace ScratchPool

/-- Takes the buffer on top, or a new one when none waits. -/
def acquire (pool : ScratchPool) : Scratch × ScratchPool :=
  match pool.idle with
  | scratch :: rest => (scratch, { pool with idle := rest })
  | [] => (⟨pool.made, [], ""⟩, { pool with made := pool.made + 1 })

/-- Puts a buffer back, emptied; when too many wait it is dropped. -/
def release (pool : ScratchPool) (scratch : Scratch) : ScratchPool :=
  if pool.idle.length < pool.maxRetained then { pool with idle := scratch.reset :: pool.idle }
  else pool

def idleCount (pool : ScratchPool) : Nat := pool.idle.length

end ScratchPool

end SchemaCheck
