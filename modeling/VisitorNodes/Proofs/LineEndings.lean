import VisitorNodes.Emission
import VisitorNodes.Proofs.Text.LineText
/-!
# Line endings

A grammar is saved line by line: each line ends in a line feed, with or without a carriage return
before it, and the last line may have no ending at all (`Saved`). Editors differ in this, and a file
that several of them wrote mixes the endings.

Reading forgets the choice. A text has certain lines exactly if it is one of the ways to save them
(`lines_eq_iff`), so a grammar given as a text is read, and generated from, as its lines are
(`readSource_saved`). The lines may hold carriage returns, but not at their ends: there one would be
taken for part of a line feed's ending.
-/

namespace VisitorNodes

open Grammar Text

namespace Text

/-! ## 1. Saved lines -/

/-- What ends a line: a line feed, by itself or behind a carriage return. -/
inductive Ending where
  | feed
  | returnFeed
  deriving Repr, DecidableEq

/-- What stands before the line feed. -/
def Ending.beforeFeed : Ending → List Char
  | .feed => []
  | .returnFeed => ['\r']

/-- Lines with their endings, and perhaps a last line without one. -/
structure Saved where
  ended : List (String × Ending)
  last : Option String
  deriving Repr, DecidableEq

namespace Saved

/-- All lines, without their endings. -/
def lines (s : Saved) : List String := s.ended.map Prod.fst ++ s.last.toList

/-- The characters of lines with their endings. -/
def endedChars : List (String × Ending) → List Char
  | [] => []
  | (line, ending) :: ended =>
    line.toList ++ ending.beforeFeed ++ '\n' :: endedChars ended

/-- The whole text. -/
def text (s : Saved) : String :=
  String.ofList (endedChars s.ended ++ (s.last.getD "").toList)

end Saved

/-- A line that no choice of endings breaks, lengthens or shortens. -/
structure Plain (line : String) : Prop where
  unfed : '\n' ∉ line.toList
  unreturned : line.toList.getLast? ≠ some '\r'

instance (line : String) : Decidable (Plain line) :=
  decidable_of_iff ('\n' ∉ line.toList ∧ line.toList.getLast? ≠ some '\r')
    ⟨fun h => ⟨h.1, h.2⟩, fun h => ⟨h.unfed, h.unreturned⟩⟩

/-! ## 2. Reading what was saved -/

/-- The carriage return of an ending is dropped with it. -/
theorem dropReturn_append {line : String} (h : Plain line) (ending : Ending) :
    dropReturn (line.toList ++ ending.beforeFeed) = line.toList := by
  unfold dropReturn
  cases ending with
  | feed => rw [Ending.beforeFeed, List.append_nil, if_neg h.unreturned]
  | returnFeed => rw [Ending.beforeFeed, List.getLast?_concat, if_pos rfl, List.dropLast_concat]

theorem feed_notMem_append {line : String} (h : Plain line) (ending : Ending) :
    '\n' ∉ line.toList ++ ending.beforeFeed := by
  rw [List.mem_append, not_or]
  exact ⟨h.unfed, by cases ending <;> decide⟩

/-- A text without a line feed is one line, unless it is empty. -/
theorem linesOf_of_unfed {cs : List Char} (h : '\n' ∉ cs) :
    linesOf cs = if cs = [] then [] else [cs] := by
  unfold linesOf
  rw [List.splitOn_eq_singleton h]
  rfl

/-- **Saved lines come back**, whatever their endings. -/
theorem lines_saved {s : Saved} (h : ∀ l ∈ s.lines, Plain l) (hlast : s.last ≠ some "") :
    lines s.text = s.lines := by
  obtain ⟨ended, last⟩ := s
  unfold lines Saved.text Saved.lines at *
  rw [String.toList_ofList]
  induction ended with
  | nil =>
    cases last with
    | none => rfl
    | some line =>
      have hne : line.toList ≠ [] := fun e => hlast (congrArg some (String.toList_eq_nil_iff.mp e))
      have hline : Plain line := h line List.mem_cons_self
      change (linesOf line.toList).map String.ofList = [line]
      rw [linesOf_of_unfed hline.unfed, if_neg hne, List.map_singleton, String.ofList_toList]
  | cons first ended ih =>
    obtain ⟨line, ending⟩ := first
    obtain ⟨hline, hrest⟩ := List.forall_mem_cons.mp h
    rw [Saved.endedChars, List.append_assoc, List.cons_append,
      linesOf_append (feed_notMem_append hline ending), dropReturn_append hline, List.map_cons,
      ih hrest hlast, String.ofList_toList]
    rfl

/-! ## 3. Every text was saved somehow -/

theorem exists_ending (piece : List Char) :
    ∃ ending : Ending, piece = dropReturn piece ++ ending.beforeFeed := by
  unfold dropReturn
  split
  · rename_i hlast
    obtain ⟨cs, rfl⟩ := List.getLast?_eq_some_iff.mp hlast
    exact ⟨.returnFeed, by rw [List.dropLast_concat]; rfl⟩
  · exact ⟨.feed, (List.append_nil _).symm⟩

/-- A text is a way to save its own lines. The induction goes from line feed to line feed. -/
theorem exists_saved_chars (cs : List Char) : ∃ s : Saved,
    s.lines = (linesOf cs).map String.ofList ∧ s.last ≠ some "" ∧ s.text = String.ofList cs := by
  induction hn : cs.length using Nat.strong_induction_on generalizing cs with
  | _ n ih =>
    subst hn
    cases hcut : cut '\n' cs with
    | none =>
      rw [linesOf_of_unfed (cut_eq_none_iff.mp hcut)]
      by_cases hnil : cs = []
      · subst hnil
        exact ⟨⟨[], none⟩, rfl, by decide, rfl⟩
      · have hne : String.ofList cs ≠ "" := fun e => hnil (String.ofList_eq_empty_iff.mp e)
        refine ⟨⟨[], some (String.ofList cs)⟩, ?_, fun e => hne (Option.some.inj e), ?_⟩
        · rw [if_neg hnil]
          rfl
        · exact String.ofList_toList
    | some halves =>
      obtain ⟨piece, rest⟩ := halves
      obtain ⟨rfl, hpiece⟩ := cut_eq_some_iff.mp hcut
      have hshorter : rest.length < (piece ++ '\n' :: rest).length := by
        rw [List.length_append, List.length_cons]
        omega
      obtain ⟨s, hlines, hlast, htext⟩ := ih rest.length hshorter rest rfl
      obtain ⟨ending, hending⟩ := exists_ending piece
      refine ⟨⟨(String.ofList (dropReturn piece), ending) :: s.ended, s.last⟩, ?_, hlast, ?_⟩
      · rw [linesOf_append hpiece, List.map_cons, ← hlines]
        rfl
      · rw [← String.toList_inj, String.toList_ofList] at htext ⊢
        unfold Saved.text at htext ⊢
        rw [String.toList_ofList] at htext ⊢
        rw [Saved.endedChars, String.toList_ofList, ← hending, List.append_assoc,
          List.cons_append, htext]

theorem exists_saved (source : String) :
    ∃ s : Saved, s.lines = lines source ∧ s.last ≠ some "" ∧ s.text = source := by
  obtain ⟨s, hs⟩ := exists_saved_chars source.toList
  rw [String.ofList_toList] at hs
  exact ⟨s, hs⟩

/-- **A text has these lines exactly if it is one of the ways to save them.** -/
theorem lines_eq_iff {ls : List String} (h : ∀ l ∈ ls, Plain l) {source : String} :
    lines source = ls ↔ ∃ s : Saved, s.lines = ls ∧ s.last ≠ some "" ∧ s.text = source := by
  constructor
  · rintro rfl
    exact exists_saved source
  · rintro ⟨s, rfl, hlast, rfl⟩
    exact lines_saved h hlast

end Text

/-! ## 4. Grammars -/

/-- **The endings of lines do not matter.** However plain lines are saved, each with an ending of
its own choice and the last with one or, if it is not empty, without, the text is read as these lines
are: as the same variants, or with the same report of the same malformed line, and the same is
generated from it. -/
theorem readSource_saved {ls : List String} (h : ∀ l ∈ ls, Plain l) {s : Saved}
    (hlines : s.lines = ls) (hlast : s.last ≠ some "") :
    readSource s.text = readLines ls ∧
      ∀ printer category, emitSource printer category s.text = emit printer category ls := by
  have hread : lines s.text = ls := (lines_eq_iff h).mpr ⟨s, hlines, hlast, rfl⟩
  unfold readSource emitSource
  rw [hread]
  exact ⟨rfl, fun _ _ => rfl⟩

/-- Both endings, a blank line, a carriage return inside a line, and no ending behind the last. -/
theorem readSource_saved_mixed :
    (∀ l ∈ ["Nil :", "Un\rary : T op", "", "Cons : T head"], Plain l) ∧
      (⟨[("Nil :", .returnFeed), ("Un\rary : T op", .feed), ("", .returnFeed)],
        some "Cons : T head"⟩ : Saved).text = "Nil :\r\nUn\rary : T op\n\r\nCons : T head" ∧
      (readSource "Nil :\r\nUn\rary : T op\n\r\nCons : T head").result
        = .error ⟨2, "Un\rary : T op", .spacedName "Un\rary"⟩ := by
  have hplain : ∀ l ∈ ["Nil :", "Un\rary : T op", "", "Cons : T head"], Plain l := by decide
  have htext : (⟨[("Nil :", .returnFeed), ("Un\rary : T op", .feed), ("", .returnFeed)],
      some "Cons : T head"⟩ : Saved).text = "Nil :\r\nUn\rary : T op\n\r\nCons : T head" := by
    decide
  obtain ⟨hread, -⟩ := readSource_saved hplain
    (s := ⟨[("Nil :", .returnFeed), ("Un\rary : T op", .feed), ("", .returnFeed)],
      some "Cons : T head"⟩) rfl (by decide)
  refine ⟨hplain, htext, ?_⟩
  rw [← htext, hread]
  rfl

end VisitorNodes
