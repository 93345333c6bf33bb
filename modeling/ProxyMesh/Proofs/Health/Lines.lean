import Mathlib.Data.List.TakeWhile
import ProxyMesh.Health.Correlator
import ProxyMesh.Proofs.Text.Chunks

/-!
# The lines of the runtime's log

A line may keep the carriage return that it ends in, where it is the last one of a log.  A probe reads
the same with it and without it: no part of its form takes a carriage return in, and a reason is told
without the blanks at its end.  Observations are made one after the other, so a log is told of part by
part.

* `probeTime?_concat`, `readProbeTag_concat`, `readDelay_concat`   the parts of a line;
* `readAlive_concat`, `readDead_concat`                            the two outcomes;
* `ignoresEnds_readProbe?`      **a probe is read without looking at the end of its line**;
* `Correlator.observeAll_append`           observations are made part by part.
-/

namespace ProxyMesh

open Text

/-! ## the time -/

section
variable {c : Char}

theorem readNumber_concat (hc : isDigit c = false) (least most : Nat) (s : List Char) :
    Time.readNumber least most (s ++ [c]) =
      (Time.readNumber least most s).map fun (n, rest) => (n, rest ++ [c]) := by
  have hlength : ((s.takeWhile isDigit).take most).length ≤ s.length :=
    Nat.le_trans (List.length_take_le' _ _) (List.takeWhile_sublist _).length_le
  unfold Time.readNumber
  dsimp only
  rw [takeWhile_concat hc, List.drop_append_of_le_length hlength]
  split
  · rfl
  · rfl

theorem expectChar_concat {d : Char} (hc : d ≠ c) (s : List Char) :
    Time.expectChar d (s ++ [c]) = (Time.expectChar d s).map (· ++ [c]) := by
  cases s with
  | nil => exact if_neg hc
  | cons x rest =>
    show (if d = x then some (rest ++ [c]) else none) = (if d = x then some rest else none).map _
    split
    · rfl
    · rfl

theorem probeTime?_concat (s : List Char) : probeTime? (s ++ ['\r']) = probeTime? s := by
  have hnumber := readNumber_concat (c := '\r') (by decide)
  have hslash := expectChar_concat (c := '\r') (d := '/') (by decide)
  have hspace := expectChar_concat (c := '\r') (d := ' ') (by decide)
  have hcolon := expectChar_concat (c := '\r') (d := ':') (by decide)
  unfold probeTime?
  simp only [Option.bind_eq_bind, hnumber, hslash, hspace, hcolon, Option.bind_map,
    Function.comp_def]

end

/-! ## tag, delay and reason -/

theorem readProbeTag_concat (s : List Char) : readProbeTag (s ++ ['\r']) =
    (readProbeTag s).map fun (tag, rest) => (tag, rest ++ ['\r']) := by
  unfold readProbeTag
  rw [stripStart_concat (by decide)]
  cases stripStart "outbound [".toList s with
  | none => rfl
  | some rest =>
    simp only [Option.map_some, Option.bind_eq_bind, Option.bind_some]
    by_cases hclosed : ']' ∈ rest
    · obtain ⟨tag, after, rfl, htag⟩ := List.eq_append_cons_of_mem hclosed
      rw [List.append_assoc, List.cons_append]
      simp only [takeWhile_ne htag, dropWhile_ne htag]
      split
      · rfl
      · rfl
    · -- without a closing bracket there is no tag, with the carriage return or without it
      have hopen : ∀ s : List Char, ']' ∉ s → s.dropWhile (· != ']') = [] :=
        fun s hs => List.dropWhile_eq_nil_iff.2 fun x hx => bne_of_mem hs x hx
      have hopen' : ']' ∉ rest ++ ['\r'] := by
        rw [List.mem_append, List.mem_singleton]
        exact not_or.2 ⟨hclosed, by decide⟩
      simp only [hopen _ hclosed, hopen _ hopen', stripStart, Option.bind_none, ite_self,
        Option.map_none]

theorem readDelay_concat (s : List Char) : readDelay (s ++ ['\r']) =
    (readDelay s).map fun (delay, rest) => (delay, rest ++ ['\r']) := by
  have hdigit : isDecimalDigit '\r' = false := by decide +kernel
  unfold readDelay
  simp only [takeWhile_concat hdigit, dropWhile_concat hdigit]
  split
  · rfl
  · cases s.dropWhile isDecimalDigit with
    | nil => rfl
    | cons x after =>
      rw [List.cons_append]
      by_cases hpoint : x = '.'
      · subst hpoint
        simp only [takeWhile_concat hdigit, dropWhile_concat hdigit]
        split
        · rfl
        · rfl
      · split
        next heq => exact absurd (List.cons.inj heq).1 hpoint
        next =>
          split
          next heq => exact absurd (List.cons.inj heq).1 hpoint
          next => rfl

/-- what is passed over before the delay may reach to the end -/
theorem readDelay_dropWhile (s : List Char) :
    readDelay ((s ++ ['\r']).dropWhile (!isDecimalDigit ·)) =
      (readDelay (s.dropWhile (!isDecimalDigit ·))).map fun (delay, rest) =>
        (delay, rest ++ ['\r']) := by
  rw [dropWhile_concat_of_pos (by decide +kernel)]
  split
  next h =>
    rw [List.isEmpty_iff.1 h]
    rfl
  next => exact readDelay_concat _

/-- the blanks before the unit may reach to the end -/
theorem stripUnit_dropWhile (s : List Char) :
    stripStart ['m', 's'] ((s ++ ['\r']).dropWhile isBlank) =
      (stripStart ['m', 's'] (s.dropWhile isBlank)).map (· ++ ['\r']) := by
  rw [dropWhile_concat_of_pos (by decide +kernel)]
  split
  next h =>
    rw [List.isEmpty_iff.1 h]
    rfl
  next => exact stripStart_concat (by decide) _

theorem dropColon_concat (s : List Char) : dropColon (s ++ ['\r']) = dropColon s ++ ['\r'] := by
  fun_cases dropColon s with
  | case1 rest => rfl
  | case2 _ hcolon =>
    cases s with
    | nil => rfl
    | cons x rest =>
      unfold dropColon
      split
      next after heq =>
        obtain ⟨hx, -⟩ := List.cons.inj heq
        exact absurd (congrArg (· :: rest) hx) (hcolon rest)
      next => rfl

/-! ## outcomes -/

theorem readAlive_concat (s : List Char) : readAlive (s ++ ['\r']) = readAlive s := by
  have halive : ∀ s, stripStart " is alive".toList (s ++ ['\r']) =
      (stripStart " is alive".toList s).map (· ++ ['\r']) :=
    stripStart_concat (by decide)
  unfold readAlive
  simp only [Option.bind_eq_bind, readProbeTag_concat, Option.bind_map, Function.comp_def, halive,
    readDelay_dropWhile, stripUnit_dropWhile]

theorem readDead_concat (s : List Char) : readDead (s ++ ['\r']) = readDead s := by
  have hdead : ∀ s, stripStart " is dead".toList (s ++ ['\r']) =
      (stripStart " is dead".toList s).map (· ++ ['\r']) :=
    stripStart_concat (by decide)
  have hreason : ∀ s, trimChars (dropColon (s ++ ['\r'])) = trimChars (dropColon s) := by
    intro s
    rw [dropColon_concat, trimChars_concat (by decide +kernel)]
  unfold readDead
  simp only [Option.bind_eq_bind, readProbeTag_concat, Option.bind_map, Function.comp_def, hdead,
    hreason]

/-- a place at the very end, behind the character, is one that was there before it -/
theorem firstSuffix_concat {α : Type} {f : List Char → Option α} {c : Char}
    (hf : ∀ s, f (s ++ [c]) = f s) (s : List Char) :
    firstSuffix f (s ++ [c]) = firstSuffix f s := by
  induction s with
  | nil =>
    show (f ([] ++ [c])).or (f []) = f []
    rw [hf, Option.or_self]
  | cons d rest ih =>
    show (f ((d :: rest) ++ [c])).or (firstSuffix f (rest ++ [c])) = _
    rw [hf, ih]
    rfl

/-- **a probe is read without looking at the end of its line** -/
theorem ignoresEnds_readProbe? : IgnoresEnds readProbe? := by
  constructor
  · decide +kernel
  · intro line
    unfold readProbe?
    simp only [String.toList_ofList, firstSuffix_concat readAlive_concat,
      firstSuffix_concat readDead_concat, probeTime?_concat]

/-! ## observations -/

theorem Correlator.observeAll_append (c : Correlator) (s : Store) (node : Id) (time : Nat)
    (a b : List Observation) : c.observeAll s node time (a ++ b) =
      ((c.observeAll s node time a).1 ++ ((c.observeAll s node time a).2.observeAll s node time b).1,
        ((c.observeAll s node time a).2.observeAll s node time b).2) := by
  induction a generalizing c with
  | nil => rfl
  | cons o rest ih =>
    have hcons : ∀ l, c.observeAll s node time (o :: l) =
        ((c.observe s node time o).1.toList ++ ((c.observe s node time o).2.observeAll s node time l).1,
          ((c.observe s node time o).2.observeAll s node time l).2) := fun _ => rfl
    rw [List.cons_append, hcons, hcons, ih, List.append_assoc]

end ProxyMesh
