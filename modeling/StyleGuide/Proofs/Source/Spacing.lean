import StyleGuide.Proofs.Block.Spacing
import StyleGuide.Proofs.Source.Parts

namespace StyleGuide.Source

theorem read_permissive_pare (path : Path) (source : Text) :
    read .permissive path source = read .permissive path (Text.pare true true source) := by
  rw [read, read]
  congr 1
  apply Outcome.each_congr
  apply (Block.undecorate_all_pare source).imp
  intro b b' h
  rw [readBlock, readBlock, h]

/-- Blanks at the ends of the lines say nothing in the permissive dialect. -/
theorem read_permissive_of_trim (path : Path) {s t : Text}
    (h : (Text.pieces '\n' s).map Text.trim = (Text.pieces '\n' t).map Text.trim) :
    read .permissive path s = read .permissive path t := by
  rw [read_permissive_pare path s, Text.pare_congr h, ← read_permissive_pare]

def shifted : Text := " p { }\n /** Keys \n\t * down.\n * @id  a b\n */ q /** @ x\n y */\n".toList

def unshifted : Text :=
  "p { }\r\n/** Keys\r\n* down.\u00a0\r\n   * @id  a b\r\n*/ q /** @ x\r\n\u3000y */\r\n\t".toList

theorem read_permissive_of_trim_shifted :
    (Text.pieces '\n' shifted).map Text.trim = (Text.pieces '\n' unshifted).map Text.trim ∧
      (read .permissive (Text.bytes "a.css".toList) unshifted).events =
        [.warning (.malformedParameter (Text.bytes "a.css".toList) "@ x".toList),
          .warning (.orphanLine (Text.bytes "a.css".toList) "y".toList)] ∧
      (read .permissive (Text.bytes "a.css".toList) unshifted).result =
        .ok [⟨"Keys\ndown.".toList, .ofList [("id".toList, .text "a b".toList)]⟩] := by
  have hlines : (Text.pieces '\n' shifted).map Text.trim =
      (Text.pieces '\n' unshifted).map Text.trim := by decide +kernel
  refine ⟨hlines, ?_⟩
  rw [← read_permissive_of_trim _ hlines]
  exact ⟨by decide +kernel, by decide +kernel⟩

/-- The strict dialect reads a source alike with either line end. -/
theorem read_strict_returned (path : Path) {source : Text} (h : '\r' ∉ source) :
    (read .strict path source).Alike (read .strict path (Text.returned source)) := by
  have hblocks := (Block.undecorateStrict?_all_returned h).imp fun _ _ hb =>
    readBlock_strict_alike path hb
  apply (Outcome.Alike.forall₂ hblocks).andThen
  intro comments
  exact .refl _

theorem read_strict_returned_sheets :
    '\r' ∉ documented ++ '\n' :: broken ∧
      (read .strict (Text.bytes "a.css".toList) "/**\r\n * A.\r\n * @id a\r\n */ /** b */".toList).result =
        .ok [⟨"A.".toList, .ofList [("id".toList, .text "a".toList)]⟩] ∧
      (read .strict (Text.bytes "a.css".toList) (Text.returned (documented ++ '\n' :: broken))).result =
        .error (.malformedParameter (Text.bytes "a.css".toList) "@ c".toList) := by
  have hdocumented := read_strict_returned (Text.bytes "a.css".toList)
    (show '\r' ∉ documented by decide)
  have hbroken := read_strict_returned (Text.bytes "a.css".toList)
    (show '\r' ∉ documented ++ '\n' :: broken by decide)
  have hcrlf : Text.returned documented = "/**\r\n * A.\r\n * @id a\r\n */ /** b */".toList := by
    decide
  rw [← hcrlf, ← hdocumented.result, ← hbroken.result]
  exact ⟨by decide, by decide +kernel, by decide +kernel⟩

end StyleGuide.Source
