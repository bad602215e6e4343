import VisualNovel.Callable.Basic
import VisualNovel.Proofs.Record.Reading

/-!
# The arguments of a callable

A callable takes its arguments from a record: a tenant, and for most callables one more text or
object.  What a callable does with a payload depends on nothing else (`Callable.serve_congr`): not
on the envelope, and not on the other fields of the record.

An argument is looked up under the name that it has in messages, or else under its own name.  It
fits if it is of the right kind, and it is given if it is there and not empty.
-/

namespace VisualNovel

theorem Field.find?_remove {field : Field} {key : String} (hwire : field.wire ≠ key)
    (hname : field.name ≠ key) (fields : Fields) :
    field.find? (OrderedMap.remove key fields) = field.find? fields := by
  unfold find?
  rw [OrderedMap.at?_remove, OrderedMap.at?_remove, if_neg hwire, if_neg hname]

namespace Payload

/-- The kinds of arguments. -/
inductive Kind where
  | text | object
  deriving DecidableEq, Repr

/-- Can the value stand for an argument of the kind?  It may be null. -/
def Kind.Fits : Kind → Json → Prop
  | _, .null => True
  | text, .str _ => True
  | object, .obj _ => True
  | _, _ => False

/-- Is the argument there?  An empty text is not, but an empty object is. -/
def Kind.Gives : Kind → Json → Prop
  | text, .str found => found ≠ ""
  | object, .obj _ => True
  | _, _ => False

/-- An argument of a callable. -/
structure Argument where
  field : Field
  kind : Kind

end Payload

open Payload

namespace Callable

/-- The arguments of a callable; all of them have to be given. -/
def arguments : Callable → List Argument
  | getScenario => [⟨Part.tenant, .text⟩, ⟨Part.scenario, .text⟩]
  | getCharacters => [⟨Part.tenant, .text⟩]
  | saveGame => [⟨Part.tenant, .text⟩, ⟨Part.saveData, .object⟩]
  | loadGame => [⟨Part.tenant, .text⟩, ⟨Part.saveCode, .text⟩]

theorem tenant_mem_arguments (callable : Callable) :
    ⟨Part.tenant, .text⟩ ∈ callable.arguments := by
  cases callable <;> exact List.mem_cons_self ..

theorem argument?_of_ne {text : String} (hne : text ≠ "") : argument? (some text) = some text := by
  unfold argument?
  split
  · rename_i heq
    exact absurd (Option.some.inj heq) hne
  · rfl

variable {fields others : Fields}

theorem text_congr {field : Field} (hfind : field.find? fields = field.find? others) :
    Payload.text field fields = Payload.text field others := by
  rw [Payload.text, Field.optional, Field.optional, hfind]

theorem object_congr {field : Field} (hfind : field.find? fields = field.find? others) :
    Payload.object field fields = Payload.object field others := by
  rw [Payload.object, Field.optional, Field.optional, hfind]

theorem serve_congr [Json.Room] (callable : Callable) {first second : Json}
    (hfirst : unwrapped first = .obj fields) (hsecond : unwrapped second = .obj others)
    (hfind : ∀ argument ∈ callable.arguments,
      argument.field.find? fields = argument.field.find? others) :
    callable.serve first = callable.serve second := by
  have hpayload : ∀ {α : Type} {read : Fields → Checked α} {serve : α → StateM Store Outcome},
      read fields = read others →
        received (Reader.payload read) serve first =
          received (Reader.payload read) serve second := by
    intro α read serve hread
    have hrecord : Reader.payload read first = Reader.payload read second := by
      rw [Reader.payload, Reader.payload, hfirst, hsecond]
      exact hread
    rw [received, received, hrecord]
  have htenant := text_congr (hfind _ (tenant_mem_arguments callable))
  have hsecondMem : ∀ {first second : Argument}, second ∈ [first, second] :=
    List.mem_cons_of_mem _ (List.mem_singleton_self _)
  cases callable with
  | getScenario =>
      have hscenario := text_congr (hfind _ hsecondMem)
      exact hpayload (by rw [htenant, hscenario])
  | getCharacters => exact hpayload (by rw [htenant])
  | saveGame =>
      have hdata := object_congr (hfind _ hsecondMem)
      exact hpayload (by rw [htenant, hdata])
  | loadGame =>
      have hcode := text_congr (hfind _ hsecondMem)
      exact hpayload (by rw [htenant, hcode])

end Callable

end VisualNovel
