import Mathlib.Data.List.Basic

/-!
# Files of lines

A file that only grows by whole lines gives its lines back as long as no line contains the stop
symbol, also when the last write was cut off.
-/

namespace UniverEscrow.Lib.LineFile

variable {α : Type*} (stop : α)

def appendLine (file line : List α) : List α := file ++ (line ++ [stop])

/-- The file that holds these lines and nothing else. -/
def written (ls : List (List α)) : List α := ls.flatMap (· ++ [stop])

/-- The lines of a file that were ended; what follows the last stop symbol is none. -/
def lines [BEq α] (file : List α) : List (List α) := (file.splitOn stop).dropLast

variable {stop}

theorem foldl_appendLine (file : List α) (ls : List (List α)) :
    ls.foldl (appendLine stop) file = file ++ written stop ls := by
  induction ls generalizing file with
  | nil => exact (List.append_nil file).symm
  | cons line ls ih =>
      rw [List.foldl_cons, ih, appendLine, List.append_assoc]
      rfl

variable [BEq α] [LawfulBEq α]

theorem splitOn_written {ls : List (List α)} {tail : List α} (hls : ∀ line ∈ ls, stop ∉ line)
    (htail : stop ∉ tail) : (written stop ls ++ tail).splitOn stop = ls ++ [tail] := by
  induction ls with
  | nil => exact List.splitOn_eq_singleton htail
  | cons line ls ih =>
      have hcut : written stop (line :: ls) ++ tail = line ++ stop :: (written stop ls ++ tail) := by
        simp [written]
      rw [hcut, List.splitOn_append_cons_self_of_not_mem (hls line List.mem_cons_self),
        ih fun l hl => hls l (List.mem_cons_of_mem line hl)]
      rfl

/-- Whatever is left of a last line that was not ended does not disturb the lines before it. -/
theorem lines_written_append {ls : List (List α)} {tail : List α} (hls : ∀ line ∈ ls, stop ∉ line)
    (htail : stop ∉ tail) : lines stop (written stop ls ++ tail) = ls := by
  rw [lines, splitOn_written hls htail, List.dropLast_concat]

end UniverEscrow.Lib.LineFile
