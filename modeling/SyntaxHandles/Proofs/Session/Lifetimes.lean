import SyntaxHandles.Native.Table
import SyntaxHandles.Proofs.Session.Provenance

-- The whole life of a session, from its start until it is dropped: what it gets from the library is
-- used only while it is alive, and given back once.

namespace SyntaxHandles.Session

open Effect Thread

variable {library : Native.Library} {key : Nat} {others : List Resource} {s t : Thread}

-- A session that is started in a new thread.
theorem start_sound {opened : Thread} (h : Thread.start.run {} = (.ok key, opened)) :
    (∀ k, (opened.sessions k).borrow = .free) ∧ opened.holders key = 1 ∧ Sound key [] opened := by
  have hs : Thread.start.run {} = (.ok 1, {
      libraryLoaded := true
      holders := fun k => if k = 1 then 1 else 0
      started := 1 }) := rfl
  obtain ⟨hk, rfl⟩ := Prod.mk.inj (hs.symm.trans h)
  obtain rfl := Except.ok.inj hk
  refine ⟨fun _ => rfl, rfl, .fresh _, fun _ hm => ?_, .empty⟩
  exact absurd hm List.not_mem_nil

-- A file with one node below its root.
def sampleTable : Native.Table where
  files := [("a.c", { root := some (some 0) })]
  cursors := #[{ children := [some 1] }, {}]

def sampleUnit : ResourceId := ⟨1, 2, .translationUnit⟩

-- A visitor that disposes of the unit that it is led through, and asks for more of it.
def sampleVisit (_ _ : CursorToken) : Thread × Unit → Except Interrupt ChildVisit × (Thread × Unit)
  | (thread, own) => (.ok .recurse, ((dispose 1 sampleUnit).run thread).2, own)

def sampleOpened : Thread :=
  ((parse sampleTable.library 1 ⟨⟨1, 1, .index⟩⟩ "a.c" {}).run
    ((createIndex sampleTable.library 1 {}).run (Thread.start.run {}).2).2).2

end SyntaxHandles.Session
