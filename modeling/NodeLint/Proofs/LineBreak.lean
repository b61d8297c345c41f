import Mathlib.Data.List.Induction
import NodeLint.Proofs.Lines
import NodeLint.Proofs.Pragma
import NodeLint.Proofs.Utf8

/-!
# Where lines end

A line ends behind a line feed, and behind a carriage return that no line feed follows; nothing else
ends a line. Counted from these offsets of the text, each character that is part of no line ending
stands in the line with its number, as many places behind the start of the line as in the text.
Pragmas and shown lines therefore have the numbers that positions in the syntax tree have, whatever
mixture of line endings the text has.

Replacing the pairs of carriage return and line feed first and the other carriage returns afterwards
comes to the same as one pass. Texts and files with the same contents have the same lines.
-/

namespace NodeLint

namespace Text

/-! ## Offsets of line endings -/

/-- Whether a line ending ends right before an offset. -/
def endsAt (cs : List Char) : Nat → Bool
  | 0 => false
  | p + 1 => cs[p]? = some '\n' || (cs[p]? = some '\r' && cs[p + 1]? ≠ some '\n')

/-- The offsets right behind the line endings of a text, in order. -/
def breaks (cs : List Char) : List Nat := (List.range (cs.length + 1)).filter (endsAt cs)

/-- The line endings that end at or before an offset. -/
def breaksUpTo (cs : List Char) (p : Nat) : List Nat := (breaks cs).filter (· ≤ p)

/-- Where the last of some line endings ends; the start of the text, if there is none. -/
def startBehind (ends : List Nat) : Nat := ends.getLastD 0

/-- Behind a first character the offsets are one higher. -/
theorem breaks_cons (c : Char) (cs : List Char) :
    breaks (c :: cs) = (if endsAt (c :: cs) 1 then [1] else []) ++ (breaks cs).map (· + 1) := by
  have hbreaks (cs : List Char) :
      breaks cs = ((List.range cs.length).map (· + 1)).filter (endsAt cs) := by
    rw [breaks, List.range_succ_eq_map, List.filter_cons_of_neg (by simp [endsAt])]
  have hshift : endsAt (c :: cs) ∘ ((· + 1) ∘ Nat.succ) = endsAt cs ∘ (· + 1) := by
    funext p
    simp [endsAt]
  rw [hbreaks, hbreaks cs, List.length_cons, List.range_succ_eq_map, List.map_cons,
    List.filter_cons, List.map_map, List.filter_map, List.filter_map, List.map_map, hshift]
  split <;> rfl

/-- The same up to an offset behind the first character. -/
theorem breaksUpTo_cons (c : Char) (cs : List Char) (p : Nat) :
    breaksUpTo (c :: cs) (p + 1) =
      (if endsAt (c :: cs) 1 then [1] else []) ++ (breaksUpTo cs p).map (· + 1) := by
  have hfirst : (if endsAt (c :: cs) 1 then [1] else []).filter (· ≤ p + 1) =
      if endsAt (c :: cs) 1 then [1] else [] := by
    split <;> simp
  have hrest : (fun e => decide (e ≤ p + 1)) ∘ (· + 1) = fun e => decide (e ≤ p) := by
    funext e
    simp
  rw [breaksUpTo, breaks_cons, List.filter_append, hfirst, List.filter_map, hrest, breaksUpTo]

/-- No line ending ends at the start of a text. -/
theorem breaksUpTo_zero (cs : List Char) : breaksUpTo cs 0 = [] := by
  rw [breaksUpTo, List.filter_eq_nil_iff]
  intro e he hzero
  obtain rfl : e = 0 := by simpa using hzero
  simp [breaks, endsAt] at he

/-- Offsets that are one higher, behind one that is one. -/
theorem startBehind_one_cons (ends : List Nat) :
    startBehind (1 :: ends.map (· + 1)) = startBehind ends + 1 := by
  rw [startBehind, List.getLastD_cons]
  cases ends using List.reverseRecOn <;> simp [startBehind]

/-- Offsets that are one higher. -/
theorem startBehind_map {ends : List Nat} (hends : ends ≠ []) :
    startBehind (ends.map (· + 1)) = startBehind ends + 1 := by
  cases ends using List.reverseRecOn with
  | nil => exact absurd rfl hends
  | append_singleton ends e => simp [startBehind]

/-! ## Lines at the start of a text -/

/-- The lines of a text, with the empty one behind a final line ending. -/
def cut (cs : List Char) : List (List Char) := pieces '\n' (unifyNewlines cs)

/-- How a text can begin: with a pair of carriage return and line feed, with any other line ending,
or with a character of a line. -/
theorem start_cases (c : Char) (cs : List Char) :
    (∃ rest, c = '\r' ∧ cs = '\n' :: rest) ∨ endsAt (c :: cs) 1 = true ∨
      (c ≠ '\n' ∧ c ≠ '\r') := by
  cases cs with
  | nil =>
    by_cases hfeed : c = '\n' <;> by_cases hreturn : c = '\r' <;> simp [endsAt, hfeed, hreturn]
  | cons d rest =>
    by_cases hfeed : c = '\n' <;> by_cases hreturn : c = '\r' <;> by_cases hd : d = '\n' <;>
      simp [endsAt, hfeed, hreturn, hd]

/-- A pair of carriage return and line feed is cut like a line feed, which ends one place further. -/
theorem start_pair (cs : List Char) :
    cut ('\r' :: '\n' :: cs) = cut ('\n' :: cs) ∧ endsAt ('\r' :: '\n' :: cs) 1 = false ∧
      endsAt ('\n' :: cs) 1 = true := by
  simp [cut, unifyNewlines, endsAt]

/-- Behind a line ending there is a line more. -/
theorem cut_of_endsAt {c : Char} {cs : List Char} (h : endsAt (c :: cs) 1 = true) :
    cut (c :: cs) = [] :: cut cs := by
  have hunify : unifyNewlines (c :: cs) = '\n' :: unifyNewlines cs := by
    simp only [endsAt, List.getElem?_cons_zero, Option.some.injEq, List.getElem?_cons_succ,
      ne_eq, Bool.or_eq_true, Bool.and_eq_true, decide_eq_true_eq] at h
    rcases h with rfl | ⟨rfl, hnext⟩
    · simp [unifyNewlines]
    · cases cs with
      | nil => rfl
      | cons d rest =>
        have hd : d ≠ '\n' := by simpa using hnext
        simp [unifyNewlines, hd]
  rw [cut, hunify, pieces_cons_sep, cut]

/-- Any other character stands at the front of the first line. -/
theorem cut_of_ne {c : Char} (hfeed : c ≠ '\n') (hreturn : c ≠ '\r') (cs : List Char) :
    ∃ l ls, cut cs = l :: ls ∧ cut (c :: cs) = (c :: l) :: ls := by
  have hunify : unifyNewlines (c :: cs) = c :: unifyNewlines cs := by
    simp [unifyNewlines, hreturn]
  rw [cut, cut, hunify]
  exact pieces_cons_of_ne hfeed _

/-- Nothing but a line ending ends at the first offset. -/
theorem endsAt_of_ne {c : Char} (hfeed : c ≠ '\n') (hreturn : c ≠ '\r') (cs : List Char) :
    endsAt (c :: cs) 1 = false := by
  simp [endsAt, hfeed, hreturn]

/-! ## Lines by their offsets -/

/-- There is one line more than there are line endings. -/
theorem length_cut (cs : List Char) : (cut cs).length = (breaks cs).length + 1 := by
  induction cs with
  | nil => rfl
  | cons c cs ih =>
    rw [breaks_cons, List.length_append, List.length_map]
    rcases start_cases c cs with ⟨rest, rfl, rfl⟩ | hends | ⟨hfeed, hreturn⟩
    · obtain ⟨hcut, hends, -⟩ := start_pair rest
      simp [hcut, hends, ih]
    · simp [cut_of_endsAt hends, hends, ih]
      omega
    · obtain ⟨l, ls, hcs, hcut⟩ := cut_of_ne hfeed hreturn cs
      rw [hcs] at ih
      simpa [hcut, endsAt_of_ne hfeed hreturn] using ih

/-- The last line is what stands behind the last line ending. -/
theorem getLast?_cut (cs : List Char) :
    (cut cs).getLast? = some (cs.drop (startBehind (breaks cs))) := by
  induction cs with
  | nil => rfl
  | cons c cs ih =>
    rw [breaks_cons]
    rcases start_cases c cs with ⟨rest, rfl, rfl⟩ | hends | ⟨hfeed, hreturn⟩
    · obtain ⟨hcut, hpair, hends⟩ := start_pair rest
      have hne : breaks ('\n' :: rest) ≠ [] := by simp [breaks_cons, hends]
      simp [hcut, hpair, startBehind_map hne, ih]
    · have hne : cut cs ≠ [] := pieces_ne_nil '\n' _
      rw [cut_of_endsAt hends, List.getLast?_cons_of_ne_nil hne, ih]
      simp [hends, startBehind_one_cons]
    · obtain ⟨l, ls, hcs, hcut⟩ := cut_of_ne hfeed hreturn cs
      have hlength := length_cut cs
      rw [hcs] at ih hlength
      rw [hcut]
      by_cases hnone : breaks cs = []
      · obtain rfl : ls = [] := by simpa [hnone] using hlength
        simpa [hnone, endsAt_of_ne hfeed hreturn, startBehind] using ih
      · have hls : ls ≠ [] := by
          intro hnil
          simp [hnil, hnone] at hlength
        rw [List.getLast?_cons_of_ne_nil hls] at ih ⊢
        simp [endsAt_of_ne hfeed hreturn, startBehind_map hnone, ih]

/-- Each character that is part of no line ending stands in the line with as many line endings
before it, as many places behind the start of the line as in the text. -/
theorem getElem?_cut (cs : List Char) (p : Nat) {c : Char} (hp : cs[p]? = some c)
    (hfeed : c ≠ '\n') (hreturn : c ≠ '\r') :
    ∃ piece, (cut cs)[(breaksUpTo cs p).length]? = some piece ∧
      piece[p - startBehind (breaksUpTo cs p)]? = some c := by
  induction cs generalizing p with
  | nil => simp at hp
  | cons d cs ih =>
    cases p with
    | zero =>
      obtain rfl : d = c := by simpa using hp
      obtain ⟨l, ls, -, hcut⟩ := cut_of_ne hfeed hreturn cs
      simp [breaksUpTo_zero, hcut]
    | succ p =>
      obtain ⟨line, hline, hindex⟩ := ih p hp
      rw [breaksUpTo_cons]
      rcases start_cases d cs with ⟨rest, rfl, rfl⟩ | hends | ⟨hfeed', hreturn'⟩
      · obtain ⟨hcut, hpair, hends⟩ := start_pair rest
        -- the line feed of the pair is no character of a line, so that the offset is behind it
        obtain ⟨p, rfl⟩ : ∃ q, p = q + 1 := by
          cases p with
          | zero => exact absurd (by simpa using hp.symm) hfeed
          | succ q => exact ⟨q, rfl⟩
        have hne : breaksUpTo ('\n' :: rest) (p + 1) ≠ [] := by simp [breaksUpTo_cons, hends]
        refine ⟨line, ?_, ?_⟩
        · simpa [hcut, hpair] using hline
        · simpa [hpair, startBehind_map hne] using hindex
      · refine ⟨line, ?_, ?_⟩
        · simpa [cut_of_endsAt hends, hends] using hline
        · simpa [hends, startBehind_one_cons] using hindex
      · obtain ⟨l, ls, hcs, hcut⟩ := cut_of_ne hfeed' hreturn' cs
        rw [hcs] at hline
        by_cases hnone : breaksUpTo cs p = []
        · obtain rfl : l = line := by simpa [hnone] using hline
          refine ⟨d :: l, ?_, ?_⟩
          · simp [hcut, hnone, endsAt_of_ne hfeed' hreturn']
          · simpa [hnone, endsAt_of_ne hfeed' hreturn', startBehind] using hindex
        · obtain ⟨n, hn⟩ : ∃ n, (breaksUpTo cs p).length = n + 1 :=
            ⟨_, (Nat.succ_pred (by simpa using hnone)).symm⟩
          refine ⟨line, ?_, ?_⟩
          · simpa [hcut, hn, endsAt_of_ne hfeed' hreturn'] using hline
          · simpa [endsAt_of_ne hfeed' hreturn', startBehind_map hnone] using hindex

/-- Lines hold all characters that are part of no line ending, in order, and no others. -/
theorem flatten_cut (cs : List Char) :
    (cut cs).flatten = cs.filter fun c => c ≠ '\n' ∧ c ≠ '\r' := by
  induction cs with
  | nil => rfl
  | cons c cs ih =>
    rcases start_cases c cs with ⟨rest, rfl, rfl⟩ | hends | ⟨hfeed, hreturn⟩
    · simpa [(start_pair rest).1] using ih
    · have hc : c = '\n' ∨ c = '\r' := by
        by_contra hno
        rw [not_or] at hno
        simp [endsAt_of_ne hno.1 hno.2] at hends
      rcases hc with rfl | rfl <;> simpa [cut_of_endsAt hends] using ih
    · obtain ⟨l, ls, hcs, hcut⟩ := cut_of_ne hfeed hreturn cs
      rw [hcs] at ih
      simpa [hcut, hfeed, hreturn] using ih

/-! ## The lines of a text -/

/-- The lines of a text are those that it is cut into, less an empty one at the end. -/
theorem lines_eq (cs : List Char) : lines cs = dropFinalEmpty (cut cs) := rfl

/-- A line that is not empty stays. -/
theorem getElem?_dropFinalEmpty_of_ne {ls : List (List Char)} {n : Nat} {line : List Char}
    (hline : ls[n]? = some line) (hne : line ≠ []) : (dropFinalEmpty ls)[n]? = some line := by
  rw [dropFinalEmpty]
  split
  · rename_i hlast
    rw [List.getLast?_eq_getElem?] at hlast
    have hn : n < ls.length - 1 := by
      have hlt := (List.getElem?_eq_some_iff.mp hline).1
      by_contra hge
      obtain rfl : n = ls.length - 1 := by omega
      exact hne (Option.some.inj (hline.symm.trans hlast))
    rw [List.getElem?_dropLast, if_pos hn, hline]
  · exact hline

/-- Dropping an empty line drops no character. -/
theorem flatten_dropFinalEmpty (ls : List (List Char)) : (dropFinalEmpty ls).flatten = ls.flatten := by
  rw [dropFinalEmpty]
  split
  · rename_i hlast
    obtain ⟨front, rfl⟩ := List.getLast?_eq_some_iff.mp hlast
    simp
  · rfl

/-- There are as many lines as line endings, and one more if text follows the last of them. -/
theorem length_lines (cs : List Char) :
    (lines cs).length =
      (breaks cs).length + if startBehind (breaks cs) < cs.length then 1 else 0 := by
  have hlength := length_cut cs
  have hempty : (cut cs).getLast? = some [] ↔ ¬ startBehind (breaks cs) < cs.length := by
    simp [getLast?_cut]
  rw [lines_eq, dropFinalEmpty]
  by_cases htext : startBehind (breaks cs) < cs.length
  · rw [if_neg (fun h => hempty.mp h htext), if_pos htext, hlength]
  · rw [if_pos (hempty.mpr htext), if_neg htext, List.length_dropLast, hlength]
    omega

/-- A line holds no part of a line ending. -/
theorem not_mem_of_mem_lines {cs line : List Char} (hline : line ∈ lines cs) :
    '\n' ∉ line ∧ '\r' ∉ line := by
  have hchars : ∀ c ∈ line, c ≠ '\n' ∧ c ≠ '\r' := by
    intro c hc
    have hmem : c ∈ (lines cs).flatten := List.mem_flatten.mpr ⟨line, hline, hc⟩
    rw [lines_eq, flatten_dropFinalEmpty, flatten_cut, List.mem_filter, decide_eq_true_eq] at hmem
    exact hmem.2
  exact ⟨fun h => (hchars _ h).1 rfl, fun h => (hchars _ h).2 rfl⟩

/-! ## Other ways to the same lines -/

/-- Replace each pair of carriage return and line feed by the line feed. -/
def joinPairs : List Char → List Char
  | [] => []
  | '\r' :: '\n' :: cs => '\n' :: joinPairs cs
  | c :: cs => c :: joinPairs cs

/-- Replace each carriage return by a line feed. -/
def replaceReturns (cs : List Char) : List Char := cs.map fun c => if c = '\r' then '\n' else c

/-- Replacing pairs first and then the other carriage returns is replacing them in one pass. A pair
that arises from the first replacement, as in two carriage returns and a line feed, does no harm: the
second looks at single characters. -/
theorem replaceReturns_joinPairs (cs : List Char) :
    replaceReturns (joinPairs cs) = unifyNewlines cs := by
  fun_induction unifyNewlines cs with
  | case1 => rfl
  | case2 cs ih =>
    rw [joinPairs, ← ih]
    rfl
  | case3 cs hpair ih =>
    rw [joinPairs, ← ih]
    · rfl
    · exact fun rest _ h => hpair rest h
  | case4 c cs _ hreturn ih =>
    have hc : c ≠ '\r' := fun h => hreturn h
    rw [joinPairs, ← ih]
    · simp [replaceReturns, hc]
    · exact fun rest h _ => hc h

/-- Unified text holds no carriage return. -/
theorem return_not_mem_unifyNewlines (cs : List Char) : '\r' ∉ unifyNewlines cs := by
  rw [← replaceReturns_joinPairs, replaceReturns, List.mem_map]
  intro ⟨c, _, hc⟩
  split at hc
  · cases hc
  · contradiction

/-- Text without carriage returns is unified. -/
theorem unifyNewlines_eq_self {cs : List Char} (h : '\r' ∉ cs) : unifyNewlines cs = cs := by
  induction cs with
  | nil => rfl
  | cons c cs ih =>
    rw [List.mem_cons, not_or] at h
    simp [unifyNewlines, Ne.symm h.1, ih h.2]

/-- Unifying the line endings of a text leaves its lines as they are. -/
theorem lines_unifyNewlines (cs : List Char) : lines (unifyNewlines cs) = lines cs := by
  rw [lines_eq, cut, unifyNewlines_eq_self (return_not_mem_unifyNewlines cs)]
  rfl

end Text

namespace SourceFile

/-- A file with the encoding of a text has the lines of the text. -/
theorem lines_ofBytes (path : Path) (text : List Char) :
    (ofBytes path (text.flatMap String.utf8EncodeChar)).lines = (ofText path text).lines := by
  rw [ofBytes, (Text.decodeUtf8_eq_ok_iff _ text).mpr rfl]
  simp only [ofText, Text.lines_unifyNewlines]

/-- The lines of a text hold no part of a line ending. A character that is part of none is found by
its offset: in the line whose number counts the line endings before it, as many places behind the
start of the line as in the text. There are as many lines as line endings, and one more if text
follows the last of them; together they hold exactly the characters that are part of no line ending,
so that no other character splits a line. The same lines are found by replacing line endings in two
passes, in the text with its line endings unified, and in a file with the encoding of the text, whose
pragmas are the same, too. -/
theorem lines_by_offset (path : Path) (text : List Char) :
    let file := ofText path text
    let stored := ofBytes path (text.flatMap String.utf8EncodeChar)
    (∀ line ∈ file.lines, '\n' ∉ line.toList ∧ '\r' ∉ line.toList) ∧
    (∀ p c, text[p]? = some c → c ≠ '\n' → c ≠ '\r' →
      let before := Text.breaksUpTo text p
      ∃ line, file.lines[before.length]? = some line ∧
        file.lineAt ((before.length + 1 : Nat) : Int) = some line ∧
        line.toList[p - Text.startBehind before]? = some c) ∧
    file.lines.length = (Text.breaks text).length +
      (if Text.startBehind (Text.breaks text) < text.length then 1 else 0) ∧
    (file.lines.map String.toList).flatten = text.filter (fun c => c ≠ '\n' ∧ c ≠ '\r') ∧
    file.lines.map String.toList = Text.dropFinalEmpty
      (Text.pieces '\n' (Text.replaceReturns (Text.joinPairs text))) ∧
    (ofText path (Text.unifyNewlines text)).lines = file.lines ∧
    stored.lines = file.lines ∧ Pragma.read stored.lines = Pragma.read file.lines := by
  intro file stored
  have hchars : file.lines.map String.toList = Text.lines text := by
    simp [file, ofText, Function.comp_def]
  have hstored : stored.lines = file.lines := lines_ofBytes path text
  refine ⟨?_, ?_, ?_, ?_, ?_, ?_, hstored, congrArg Pragma.read hstored⟩
  · intro line hline
    have hmem : line.toList ∈ Text.lines text := by
      rw [← hchars]
      exact List.mem_map_of_mem hline
    exact Text.not_mem_of_mem_lines hmem
  · intro p c hp hfeed hreturn before
    obtain ⟨line, hline, hindex⟩ := Text.getElem?_cut text p hp hfeed hreturn
    have hne : line ≠ [] := by
      intro hnil
      simp [hnil] at hindex
    have hfile : file.lines[before.length]? = some (String.ofList line) := by
      have hkept : (Text.lines text)[before.length]? = some line :=
        Text.getElem?_dropFinalEmpty_of_ne hline hne
      simp [file, ofText, hkept]
    refine ⟨String.ofList line, hfile, ?_, by rwa [String.toList_ofList]⟩
    rw [lineAt, lineIn_of_pos _ (Nat.succ_pos _)]
    exact hfile
  · rw [← Text.length_lines, ← hchars, List.length_map]
  · rw [hchars, Text.lines_eq, Text.flatten_dropFinalEmpty, Text.flatten_cut]
  · rw [hchars, Text.replaceReturns_joinPairs]
    rfl
  · simp only [file, ofText, Text.lines_unifyNewlines]

/-- A text in which a carriage return stands before a pair, and a form feed inside a line. -/
def mixedEndings : List Char := "a\r\r\nb\x0cc".toList

/-- The character behind the form feed is in the third line, at the third place. -/
theorem lines_mixedEndings :
    (ofText ⟨.relative, ["a.py"]⟩ mixedEndings).lineAt 3 = some "b\x0cc" ∧
    mixedEndings[6]? = some 'c' ∧ Text.breaksUpTo mixedEndings 6 = [2, 4] ∧
    ∃ line, (ofText ⟨.relative, ["a.py"]⟩ mixedEndings).lineAt (3 : Nat) = some line ∧
      line.toList[6 - 4]? = some 'c' := by
  have hbreaks : Text.breaksUpTo mixedEndings 6 = [2, 4] := by decide +kernel
  obtain ⟨-, hoffset, -⟩ := lines_by_offset ⟨.relative, ["a.py"]⟩ mixedEndings
  obtain ⟨line, -, hline, hindex⟩ := hoffset 6 'c' (by decide) (by decide) (by decide)
  rw [hbreaks] at hline hindex
  exact ⟨by decide +kernel, by decide, hbreaks, line, hline, hindex⟩

end SourceFile
end NodeLint
