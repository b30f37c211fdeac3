namespace SpanTelemetry.Text

/-!
# Lines of a text

* `isLineEnd` — the characters that end a line.
* `lines` — the lines of a text without their ends; a carriage return and the line feed
  after it are one end, and the end of the last line may be missing.
-/

/-- Line feeds, carriage returns, vertical tabs, form feeds and the separators of records,
    groups, files, lines and paragraphs. -/
def isLineEnd (c : Char) : Bool :=
  let n := c.toNat
  (10 ≤ n && n ≤ 13) || (28 ≤ n && n ≤ 30) || n == 0x85 || n == 0x2028 || n == 0x2029

/-- The lines of a text. -/
def lines : List Char → List (List Char)
  | [] => []
  | '\r' :: '\n' :: rest => [] :: lines rest
  | c :: rest =>
      if isLineEnd c then [] :: lines rest
      else
        match lines rest with
        | [] => [[c]]
        | line :: more => (c :: line) :: more

end SpanTelemetry.Text
