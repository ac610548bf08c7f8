/-!
# Line ends of text files

Text read from a file in text mode has its line ends made uniform: `\r\n` and a lone `\r`
both become `\n`.
-/

namespace IssueSync.Text

/-- Text as a file read in text mode sees it: `\r\n` and a lone `\r` become `\n`. -/
def normalizeNewlines (s : String) : String :=
  String.ofList (go s.toList)
where
  go : List Char → List Char
    | '\r' :: '\n' :: rest => '\n' :: go rest
    | '\r' :: rest => '\n' :: go rest
    | c :: rest => c :: go rest
    | [] => []

example : normalizeNewlines "a\r\nb\rc\n" = "a\nb\nc\n" := by decide +kernel

end IssueSync.Text
