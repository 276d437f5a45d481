import SyntaxHandles.Proofs.Dynamic.Unseen

-- How a host begins: the interface gets a list of all that it has, and nothing else of it changes.

namespace SyntaxHandles.Dynamic

open Scripting

-- What the interface has under its names.
inductive Value.Member : Value → Prop
  | plain {value : Value} (plain : value.Plain) : Member value
  | function (f : Function) : Member (.function f)
  | class (c : Class) : Member (.class c)
  | list (identity : Nat) : Member (.list identity)

-- An entry that was put in the place of another one, with an identity of its own.
structure Replaces (old new : Value × Value) : Prop where
  named : ∃ name before after, old.1 = .text name before ∧ new.1 = .text name after
  function : ∀ f, old.2 = .function f → new.2 = .function f

theorem unseen_identifiedEntry {entry : Value × Value}
    (hk : ∃ name place, entry.1 = .text name place) (hv : entry.2.Member) :
    Unseen (fun kept _ => Replaces entry kept) (identifiedEntry entry) := by
  obtain ⟨key, value⟩ := entry
  obtain ⟨name, before, rfl⟩ := hk
  have hkey : Unseen (fun kept _ => ∃ after, kept = .text name after)
      (identified (.text name before)) := by
    cases before with
    | zero => exact unseen_new fun identity _ => ⟨identity, rfl⟩
    | succ before => exact .pure fun _ => ⟨_, rfl⟩
  have hvalue : Unseen (fun kept _ => ∀ f, value = .function f → kept = .function f)
      (identified value) := by
    cases hv with
    | plain plain =>
        intro s
        obtain ⟨kept, desk, hr, hlike, -⟩ := unseen_identified plain s
        refine ⟨kept, desk, hr, hlike, ?_⟩
        rintro f rfl
        exact nomatch plain
    | function f => exact .pure fun _ _ he => he
    | «class» c => exact .pure fun _ _ he => he
    | list identity => exact .pure fun _ _ he => he
  refine hkey.bind fun kept s hkept => ?_
  obtain ⟨after, rfl⟩ := hkept
  obtain ⟨given, desk, hr, hlike, hf⟩ := hvalue s
  exact ⟨(.text name after, given), desk, run_next hr, hlike, ⟨name, before, after, rfl, rfl⟩, hf⟩

theorem unseen_entries {entries : List (Value × Value)}
    (h : ∀ entry ∈ entries, (∃ name place, entry.1 = .text name place) ∧ entry.2.Member) :
    Unseen (fun kept _ => List.Forall₂ Replaces entries kept) (entries.mapM identifiedEntry) := by
  induction entries with
  | nil => exact .pure fun _ => .nil
  | cons entry entries ih =>
      obtain ⟨⟨hk, hv⟩, hrest⟩ := List.forall_mem_cons.mp h
      rw [List.mapM_cons]
      refine (unseen_identifiedEntry hk hv).bind fun kept s hkept => ?_
      obtain ⟨rest, desk, hr, hlike, hf⟩ := ih hrest s
      exact ⟨kept :: rest, desk, run_next hr, hlike, .cons hkept hf⟩

theorem named?_of_replaces {name : String} {f : Function} {old new : List (Value × Value)}
    (h : List.Forall₂ Replaces old new) (hn : named? name old = some (.function f)) :
    named? name new = some (.function f) := by
  induction h with
  | nil => exact hn
  | @cons a b old new hab _ ih =>
      obtain ⟨key, value⟩ := a
      obtain ⟨key', value'⟩ := b
      obtain ⟨⟨other, before, after, rfl, rfl⟩, hf⟩ := hab
      by_cases he : other = name
      · simp only [named?, List.find?_cons, he, decide_true, Option.map_some, Option.some.injEq]
          at hn ⊢
        exact hf f hn
      · simp only [named?, List.find?_cons, he, decide_false] at hn ⊢
        exact ih hn

theorem unseen_newList (texts : List String) :
    Silent (fun value _ => ∃ identity, value = .list identity)
      (newList (texts.map fun string => .text string)) := by
  intro s
  obtain ⟨identity, desk, hr, hlike, -⟩ := unseen_newIdentity.lift s
  obtain ⟨items, last, hr', hlike', -⟩ :=
    (unseen_allIdentified (areTexts_map texts)).lift (s.1, desk)
  refine ⟨.list identity, { last with lists := (identity, items) :: last.lists }, ?_, ?_,
    identity, rfl⟩
  · rw [newList, runs_next hr, runs_next hr']
    rfl
  · exact (hlike.trans hlike').trans ⟨rfl, rfl, rfl, rfl⟩

theorem member_of_entries {interface : String} {entry : String × Value}
    (h : entry ∈ Interface.entries interface) : entry.2.Member := by
  have hlines : (Value.lines (some Interface.documentation)).Plain := .text _ 0
  simp only [Interface.entries, Interface.members, List.mem_append, List.mem_cons, List.mem_map,
    List.not_mem_nil, or_false, Prod.exists] at h
  rcases h with (rfl | rfl | rfl | rfl | rfl | rfl | rfl | rfl) |
    ((⟨f, -, rfl⟩ | ⟨c, -, rfl⟩) | ⟨name, n, -, rfl⟩) | rfl
  · exact .plain (.text interface 0)
  · exact .plain hlines
  · exact .plain (.text "" 0)
  · exact .plain .nothing
  · exact .plain .nothing
  · exact .plain .nothing
  · exact .plain .nothing
  · exact .plain (.text Interface.version 0)
  · exact .function f
  · exact .class c
  · exact .plain (.int n 0)
  · exact .plain (.int ConstantTable.version 0)

theorem fresh_clear (interface : String) : (Desk.clear interface).Fresh where
  guise c := by cases c <;> rfl
  functions f := by cases f <;> rfl
  known := nofun

-- What the interface has once it has its list.
def listed (interface : String) (list : Value) : List (Value × Value) :=
  ((Desk.clear interface).tableAt Interface.table).map fun
    | (.text key identity, old) =>
      (.text key identity, if key = Interface.allNames then list else old)
    | entry => entry

theorem listed_function (interface : String) (list : Value) (f : Function) :
    named? f.name (listed interface list) = some (.function f) := by
  cases f <;> rfl

theorem member_of_listed {interface : String} {list : Value} (hl : list.Member)
    {entry : Value × Value} (h : entry ∈ listed interface list) :
    (∃ name place, entry.1 = .text name place) ∧ entry.2.Member := by
  obtain ⟨old, hold, rfl⟩ := List.mem_map.mp h
  obtain ⟨own, hown, rfl⟩ := List.mem_map.mp hold
  refine ⟨⟨own.1, 0, rfl⟩, ?_⟩
  simp only
  split
  · exact hl
  · exact member_of_entries hown

theorem settle_run (thread : Thread) (interface : String) :
    ∃ desk, settle.run (thread, .clear interface) = .ok ((), (thread, desk)) ∧ desk.Fresh ∧
      desk.names = [] := by
  let texts := "__version__" :: Interface.members.map Prod.fst
  obtain ⟨_, desk, hlist, hlike, identity, rfl⟩ := unseen_newList texts (thread, .clear interface)
  have htable : desk.tableAt Interface.table = (Desk.clear interface).tableAt Interface.table := by
    simp only [Desk.tableAt, hlike.tables]
  obtain ⟨entries, last, hentries, hlike', hreplaces⟩ :=
    (unseen_entries fun _ h => member_of_listed (.list identity) h).lift (thread, desk)
  have hlast := hlike.trans hlike'
  let given : Desk := { last with tables := replaceAt Interface.table entries last.tables }
  have hput : (putNamed Interface.table Interface.allNames (.list identity)).run.run
      (thread, desk) = .ok (.ok (), (thread, given)) := by
    have hasked : (tableAt Interface.table).run.run (thread, desk) =
        .ok (.ok ((Desk.clear interface).tableAt Interface.table), (thread, desk)) := htable ▸ rfl
    have hsome : (named? Interface.allNames
        ((Desk.clear interface).tableAt Interface.table)).isSome = true := rfl
    rw [putNamed, runs_next hasked]
    simp only [hsome, if_true]
    exact runs_next hentries
  have hsettled : (do
      putNamed Interface.table Interface.allNames
        (← newList (texts.map fun string => .text string)) : Part Unit).run.run
          (thread, .clear interface) = .ok (.ok (), (thread, given)) :=
    (runs_next hlist).trans hput
  refine ⟨given, run_next hsettled, ⟨fun c => ?_, fun f => ?_, ?_⟩, ?_⟩
  · have hguise : given.guise c = (Desk.clear interface).guise c := by
      simp only [given, Desk.guise, hlast.guises, hlast.interface]
    rw [hguise, (fresh_clear interface).guise]
    exact congrArg (fun name => ({ entries := c.entries name } : Guise)) hlast.interface.symm
  · have hentries : given.tableAt Interface.table = entries := by
      simp only [given, Desk.tableAt, hlast.tables]
      rfl
    rw [hentries]
    exact named?_of_replaces hreplaces (listed_function interface _ f)
  · exact hlast.labels ▸ (fresh_clear interface).known
  · exact hlast.names

end SyntaxHandles.Dynamic
