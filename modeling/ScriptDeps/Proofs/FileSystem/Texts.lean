import ScriptDeps.Proofs.Running
import ScriptDeps.Script.ImportGraph

/-!
# Texts in files

A text that was written is the text that is read, as long as it holds no carriage return: reading
folds line breaks, and nothing else is changed on the way.
-/

namespace ScriptDeps

namespace Text

theorem decodeUtf8_toUTF8 (text : String) : decodeUtf8 text.toUTF8 = .ok text := by
  have valid : text.toUTF8.IsValidUTF8 := text.isValidUTF8
  rw [decodeUtf8, String.fromUTF8?, dif_pos valid]
  rfl

theorem withLineFeeds_of_notMem {text : String} (single : '\r' ∉ text.toList) :
    withLineFeeds text = text := by
  rw [withLineFeeds, if_neg (by simpa using single)]

theorem foldBreaks_notMem (text : List Char) : '\r' ∉ foldBreaks text := by
  fun_induction foldBreaks text with
  | case1 => exact List.not_mem_nil
  | case2 rest ih => exact List.not_mem_cons_of_ne_of_not_mem (by decide) ih
  | case3 c rest _ ih =>
    refine List.not_mem_cons_of_ne_of_not_mem ?_ ih
    split
    · decide
    · rename_i other
      exact fun same => other (beq_iff_eq.mpr same.symm)

theorem withLineFeeds_notMem (text : String) : '\r' ∉ (withLineFeeds text).toList := by
  rw [withLineFeeds]
  split
  · rw [String.toList_ofList]
    exact foldBreaks_notMem text.toList
  · rename_i single
    simpa using single

end Text

namespace FileSystem

variable {fs : FileSystem} {path : String}

theorem checkPath_ok (spoken : '\x00' ∉ path.toList) : checkPath path = .ok () := by
  rw [checkPath, if_neg (by simpa using spoken)]

theorem readBytes_of_stat {content : ByteArray} {time : Int} (spoken : '\x00' ∉ path.toList)
    (lies : fs.stat path = .ok (.file content time false)) : fs.readBytes path = .ok content := by
  rw [readBytes, checkPath_ok spoken, lies]
  rfl

theorem readText_of_stat {text : String} {time : Int} (spoken : '\x00' ∉ path.toList)
    (single : '\r' ∉ text.toList) (lies : fs.stat path = .ok (.file text.toUTF8 time false)) :
    fs.readText path = .ok text := by
  rw [readText, readExact, readBytes_of_stat spoken lies, ok_bind, Text.decodeUtf8_toUTF8]
  exact congrArg Except.ok (Text.withLineFeeds_of_notMem single)

theorem readUnmarked_of_stat {text : String} {time : Int} (spoken : '\x00' ∉ path.toList)
    (unmarked : Text.dropMark text.toUTF8 = text.toUTF8)
    (lies : fs.stat path = .ok (.file text.toUTF8 time false)) :
    fs.readUnmarked path = .ok text := by
  rw [readUnmarked, readBytes_of_stat spoken lies, ok_bind, unmarked, Text.decodeUtf8_toUTF8]
  rfl

/-- What is listed is a directory. -/
theorem list_ok {names : List String} (ran : fs.list path = .ok names) :
    '\x00' ∉ path.toList ∧ ∃ place node, fs.walk true path = .ok (.present place node) ∧
      node.isDirectory = true ∧ names = fs.namesIn place := by
  rw [list, checkPath] at ran
  split at ran
  · cases ran
  · rename_i spoken
    refine ⟨by simpa using spoken, ?_⟩
    rw [ok_bind] at ran
    cases walked : fs.walk true path with
    | error fault => rw [walked] at ran; cases ran
    | ok found =>
      rw [walked] at ran
      cases found with
      | absent place => cases ran
      | present place node =>
        dsimp only [orFail, ok_bind] at ran
        split at ran
        · cases ran
        · rename_i directory
          split at ran
          · cases ran
          · exact ⟨place, node, rfl, by simpa using directory, pure_ok ran⟩

end FileSystem

theorem Script.readScript_of_stat {fs : FileSystem} {path : Path} {text : String} {time : Int}
    (spoken : '\x00' ∉ path.text.toList) (unmarked : Text.dropMark text.toUTF8 = text.toUTF8)
    (single : '\r' ∉ text.toList)
    (lies : fs.stat path.text = .ok (.file text.toUTF8 time false)) :
    readScript fs path = .ok text := by
  rw [readScript, FileSystem.readUnmarked_of_stat spoken unmarked lies]
  exact congrArg Except.ok (Text.withLineFeeds_of_notMem single)

/-- The text of a script has no carriage returns. -/
theorem Script.readScript_notMem {fs : FileSystem} {path : Path} {content : String}
    (read : readScript fs path = .ok content) : '\r' ∉ content.toList := by
  rw [readScript] at read
  split at read
  · rw [← Except.ok.inj read]
    exact Text.withLineFeeds_notMem _
  · cases read
  · cases read
  · cases read

end ScriptDeps
