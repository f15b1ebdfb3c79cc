import LayeredSettings.Settings.Layer

/-!
# The settings context

The settings in effect for a piece of work are carried by a context. Contexts are entered as frames
on a stack that all work of one thread shares; each frame is tagged with its owner, a task or the
code outside any task, and only its owner sees it. A context may also be bound to a stretch of one
owner's work as a scope. Frames and scopes are numbered in the order in which they begin, and an
owner sees the youngest of its own.
-/

namespace LayeredSettings

/-- Settings in effect, and the name of the profile they were resolved with. -/
structure SettingsContext where
  settings : Settings
  profile : Option String
  deriving DecidableEq

/-- Equality of contexts, with the settings compared as settings. -/
def SettingsContext.same (a b : SettingsContext) : Bool :=
  a.settings.same b.settings && a.profile == b.profile

/-- Who enters frames: a task, or the code outside any task. -/
abbrev Owner := Option Nat

/-- A context that an owner has entered, with its number. -/
structure Frame where
  sequence : Nat
  owner : Owner
  context : SettingsContext
  deriving DecidableEq

/-- The frames on a thread's stack, oldest first, the open scopes, youngest first, and the number of
the next frame or scope. -/
structure ContextStack where
  frames : List Frame
  scopes : List Frame
  /-- Unbounded, where a running program counts with 64 bits: the two agree as long as fewer than
  `2 ^ 64` frames and scopes have been numbered on the thread. -/
  next : Nat
  deriving DecidableEq

namespace ContextStack

/-- No frames and no scopes. -/
def empty : ContextStack := ⟨[], [], 0⟩

/-- A frame for an owner with the next number. -/
def newFrame (s : ContextStack) (owner : Owner) (context : SettingsContext) : Frame :=
  ⟨s.next, owner, context⟩

/-- The stack with a frame on top. -/
def enter (s : ContextStack) (owner : Owner) (context : SettingsContext) : ContextStack :=
  { s with frames := s.frames ++ [s.newFrame owner context], next := s.next + 1 }

/-- The stack without a frame and without the frames that its owner entered after it. A frame that
is gone already changes nothing. -/
def leave (s : ContextStack) (sequence : Nat) (owner : Owner) : ContextStack :=
  match s.frames.findIdx? (·.sequence = sequence) with
  | none => s
  | some position =>
    { s with
      frames := s.frames.take position ++ (s.frames.drop position).filter (·.owner ≠ owner) }

/-- The stack with a scope open. -/
def openScope (s : ContextStack) (owner : Owner) (context : SettingsContext) : ContextStack :=
  { s with scopes := s.newFrame owner context :: s.scopes, next := s.next + 1 }

/-- The stack with a scope closed. -/
def closeScope (s : ContextStack) (sequence : Nat) : ContextStack :=
  { s with scopes := s.scopes.filter (·.sequence ≠ sequence) }

/-- The youngest frame on the stack that an owner entered. -/
def top? (s : ContextStack) (owner : Owner) : Option Frame :=
  s.frames.reverse.find? (·.owner = owner)

/-- The innermost scope that an owner has open. -/
def innermost? (s : ContextStack) (owner : Owner) : Option Frame :=
  s.scopes.find? (·.owner = owner)

/-- The younger of two frames. -/
def younger : Option Frame → Option Frame → Option Frame
  | some a, some b => if a.sequence ≤ b.sequence then some b else some a
  | a, b => a.or b

/-- The context that an owner sees, or the error that there is none. -/
def current (s : ContextStack) (owner : Owner) : Except SettingsError SettingsContext :=
  match younger (s.top? owner) (s.innermost? owner) with
  | some frame => .ok frame.context
  | none => .error .noActiveContext

end ContextStack

end LayeredSettings
