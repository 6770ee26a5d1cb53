import ShaderVariants.Toml.Fault

/-!
# What keys may still be used for

An inline value is immutable: nothing may be added to it or below it later. A table that has been
declared by name, or made on the way to a dotted key in an earlier section, must not be declared
again.
-/

namespace ShaderVariants.Toml

/-- Keys of immutable values, keys that must not be declared again, and keys that must not after
the section that is being read. -/
structure Namespaces where
  immutable : List Key
  closed : List Key
  closing : List Key

namespace Namespaces

/-- Nothing has been used. -/
def empty : Namespaces := ⟨[], [], []⟩

/-- A key leads to an immutable value or below one. -/
def isImmutable (namespaces : Namespaces) (key : Key) : Bool :=
  namespaces.immutable.any fun other => other.isPrefixOf key

/-- A key must not be declared again. -/
def isClosed (namespaces : Namespaces) (key : Key) : Bool := namespaces.closed.any (· == key)

def beginSection (namespaces : Namespaces) : Namespaces :=
  { namespaces with closed := namespaces.closing ++ namespaces.closed, closing := [] }

/-- Makes a value immutable. -/
def freeze (namespaces : Namespaces) (key : Key) : Namespaces :=
  { namespaces with immutable := key :: namespaces.immutable }

/-- Forbids another declaration of a key. -/
def close (namespaces : Namespaces) (key : Key) : Namespaces :=
  { namespaces with closed := key :: namespaces.closed }

/-- Forbids another declaration of a key from the next section on. -/
def closeLater (namespaces : Namespaces) (key : Key) : Namespaces :=
  { namespaces with closing := key :: namespaces.closing }

/-- Forgets what is known of a key and of those below it. -/
def release (namespaces : Namespaces) (key : Key) : Namespaces :=
  let isElsewhere (other : Key) : Bool := !key.isPrefixOf other
  { namespaces with
    immutable := namespaces.immutable.filter isElsewhere
    closed := namespaces.closed.filter isElsewhere }

end Namespaces

end ShaderVariants.Toml
