import IdFactory.Symbol.Alphabet
import IdFactory.Symbol.Identifier
import IdFactory.Random.Source

namespace IdFactory

open IdFactory.Random

/-!
# Drawing identifiers

An identifier of length `n` is drawn by rejection sampling. Buffers of
`bufferSize n` bytes are requested from a random source, one after the
other; each byte is masked by the alphabet's mask and kept when it indexes a
symbol. The first `n` symbols kept, in order, spell the identifier, and the
rest of the last buffer is dropped. A failing request ends the draw with
that failure, whatever was collected. Nothing bounds the number of
requests: a source that keeps answering without yielding enough symbols
keeps the draw going forever, which `Alphabet.draw?` reports as `none` and
`Alphabet.draw` records as a failure with `stalledReason`, made with no
request and leaving the source as it was.

Every symbol of the alphabet is then equally likely, whatever its size,
and each byte is kept with probability above one half, so a buffer half as
long again as the identifier rarely needs a second one.
-/

/-- The size of each buffer requested for an identifier of a length: half as much again,
and at least eight bytes. -/
def bufferSize (length : Nat) : Nat :=
  max (length + length / 2) 8

/-- The symbols a buffer yields: each byte masked, kept when it indexes a symbol. -/
def Alphabet.symbolsOf (a : Alphabet) (buffer : List UInt8) : List UInt8 :=
  buffer.filterMap fun b => a.symbol? (b &&& a.mask).toNat

/-- The identifier spelled by a list of symbols. -/
def Identifier.ofSymbols (symbols : List UInt8) : Identifier :=
  ⟨String.ofList (symbols.map fun b => Char.ofNat b.toNat)⟩

/-- The outcome of one draw, and how many buffers it requested. -/
structure Draw where
  outcome : Except DrawFailure Identifier
  requests : Nat
  deriving Repr

/-- The reason recorded for a draw that never ends: its source keeps answering without
yielding enough symbols, so the draw would request buffers forever. -/
def stalledReason : String := "random source yields no symbols"

/-- Request buffers until `length` symbols are collected; `none` when that never happens, the
source answering forever without a failure and without yielding enough symbols. -/
def Alphabet.drawLoop {σ : Type} [RandomSource σ] (a : Alphabet) (length size : Nat)
    (collected : List UInt8) (requests : Nat) (source : σ) : Option (Draw × σ) :=
  if length ≤ collected.length then some (⟨.ok (Identifier.ofSymbols collected), requests⟩, source)
  else
    match RandomSource.fill source size with
    | (.error e, source') => some (⟨.error e, requests + 1⟩, source')
    | (.ok buffer, source') =>
      let fresh := (a.symbolsOf buffer).take (length - collected.length)
      a |>.drawLoop length size (collected ++ fresh) (requests + 1) source'
partial_fixpoint

/-- Draw one identifier of a length from a source, if the draw ends. -/
def Alphabet.draw? {σ : Type} [RandomSource σ] (a : Alphabet) (length : Nat) (source : σ) :
    Option (Draw × σ) :=
  a.drawLoop length (bufferSize length) [] 0 source

/-- Draw one identifier of a length from a source. A draw that never ends is recorded as a
failure with `stalledReason`, made with no request. -/
def Alphabet.draw {σ : Type} [RandomSource σ] (a : Alphabet) (length : Nat) (source : σ) :
    Draw × σ :=
  (a.draw? length source).getD (⟨.error (.failed stalledReason), 0⟩, source)

/-- Whether a draw ended in a crash of its source. -/
def Draw.crashed (d : Draw) : Bool :=
  match d.outcome with
  | .error .crashed => true
  | _ => false

/-- Draw `count` identifiers one after the other from one source, stopping after a crash. -/
def Alphabet.drawSeveral {σ : Type} [RandomSource σ] (a : Alphabet) (length : Nat) :
    Nat → σ → List Draw × σ
  | 0, source => ([], source)
  | count + 1, source =>
    let (d, source') := a.draw length source
    if d.crashed then ([d], source')
    else
      let (rest, source'') := a.drawSeveral length count source'
      (d :: rest, source'')

end IdFactory
