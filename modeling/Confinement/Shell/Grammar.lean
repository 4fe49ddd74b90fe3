import Confinement.Shell.Reader

/-!
Reading commands. A script is read one line of commands at a time, so that what stands before a
mistake is run before the mistake is seen. Documents announced in a line follow it; a command names
them by number, and the reader keeps what they say.
-/

namespace Confinement.Shell

namespace Reader

mutual

/-- Pieces up to the end of their context. -/
def pieces : Nat → Context → Reading Word
  | 0, _ => return []
  | fuel + 1, context => do
      match ← peek with
      | none =>
          match context with
          | .word | .document => return []
          | .double => fail "Syntax error: Unterminated quoted string"
          | .brace quoted _ =>
              let reader ← get
              if quoted && !reader.inDocument then
                fail "Syntax error: Unterminated quoted string"
              else
                if reader.inDocument then set { reader with line := reader.line + 1 }
                fail "Syntax error: Missing '\x7d'"
          | .arithmetic _ => fail "Syntax error: Missing '))'"
      | some char =>
          if context == .word && Context.wordEnds.contains char then return []
          else
            discard takeRaw
            let go (first : Word) : Reading Word := return first ++ (← pieces fuel context)
            let plain : Reading Word := go [.literal char context.isQuoted]
            match char, context with
            | '\\', _ =>
                match (← get).rest with
                | [] => go [.literal '\\' true]
                | next :: _ =>
                    discard takeRaw
                    if context.escapes (← get).inDocument next then go [.literal next true]
                    else go [.literal '\\' true, .literal next true]
            | '\x27', .word | '\x27', .brace false _ =>
                go (.quotes :: (← singleQuoted fuel))
            | '"', .double => return []
            | '"', .word | '"', .brace false _ =>
                match ← pieces fuel .double with
                | [.parameter ['@'] .plain [] true] => go [.parameter ['@'] .plain [] true]
                | inner => go (.quotes :: inner)
            | '"', .brace true inner => pieces fuel (.brace true !inner)
            | '\x7d', .brace _ inner => if inner then plain else return []
            | '(', .arithmetic depth =>
                return .literal '(' true :: (← pieces fuel (.arithmetic (depth + 1)))
            | ')', .arithmetic (depth + 1) =>
                return .literal ')' true :: (← pieces fuel (.arithmetic depth))
            | ')', .arithmetic 0 => if ← accept ')' then return [] else plain
            | '$', _ =>
                if (← get).inDelimiter then plain else go (← dollar fuel context.isQuoted)
            | '\x60', _ =>
                if (← get).inDelimiter then plain
                else
                  let script ← backQuoted context.isQuoted fuel
                  let text := { ← get with rest := script, line := 1, inDocument := false }
                  let body ← within text (list fuel true)
                  go [.substitution body context.isQuoted]
            | _, _ => plain

/-- What follows a dollar sign. -/
def dollar : Nat → Bool → Reading Word
  | 0, _ => return []
  | fuel + 1, quoted => do
      match ← peek with
      | some '(' =>
          discard takeRaw
          if ← accept '(' then
            return [.arithmetic (← pieces fuel (.arithmetic 0)) quoted]
          else
            let body ← list fuel true
            let closing ← token fuel false false
            if closing.isSign ")" then return [.substitution body quoted]
            else unexpected closing (some ")")
      | some '\x7b' =>
          discard takeRaw
          braced fuel quoted
      | some char =>
          if isNameStart char then
            return [.parameter (← takeWhile isNamePart fuel) .plain [] quoted]
          else if isSpecial char then
            discard takeRaw
            return [.parameter [char] .plain [] quoted]
          else return [.literal '$' quoted]
      | none => return [.literal '$' quoted]

/-- What follows a dollar sign and an opening brace. -/
def braced : Nat → Bool → Reading Word
  | 0, _ => return []
  | fuel + 1, quoted => do
      let rest := (← get).rest
      let isLength := rest.head? == some '#' &&
        match rest.tail with
        | char :: next =>
            isNamePart char || isSpecial char && next.head? == some '\x7d'
        | [] => false
      if isLength then discard takeRaw
      let name ← match ← peek with
        | some char =>
            if isNameStart char then takeWhile isNamePart fuel
            else if char.isDigit then takeWhile Char.isDigit fuel
            else if isSpecial char then
              discard takeRaw
              pure [char]
            else pure []
        | none => pure []
      let bad : Reading Word := do
        discard (pieces fuel (.brace quoted false))
        return [.malformed]
      if name.isEmpty then bad
      else if isLength then
        if ← accept '\x7d' then return [.parameter name .length [] quoted] else bad
      else
        let taking (usage : Usage) (context : Context) : Reading Word := do
          return [.parameter name usage (← pieces fuel context) quoted]
        let unknown : Reading Word := do
          discard takeRaw
          bad
        let colon ← accept ':'
        match ← peek with
        | some '\x7d' =>
            discard takeRaw
            let value := Piece.parameter name .plain [] quoted
            if colon then return value :: (← pieces fuel (.brace quoted false)) else return [value]
        | some '-' => discard takeRaw; taking (.default colon) (.brace quoted false)
        | some '=' => discard takeRaw; taking (.assign colon) (.brace quoted false)
        | some '?' => discard takeRaw; taking (.require colon) (.brace quoted false)
        | some '+' => discard takeRaw; taking (.replace colon) (.brace quoted false)
        | some '#' =>
            if colon then unknown
            else
              discard takeRaw
              taking (.trim false (← accept '#')) (.brace false false)
        | some '%' =>
            if colon then unknown
            else
              discard takeRaw
              taking (.trim true (← accept '%')) (.brace false false)
        | _ => unknown

/-- The documents that were announced in the line that has just ended. -/
def collectDocuments : Nat → Reading Unit
  | 0 => return ()
  | fuel + 1 => do
      let reader ← get
      match reader.announced with
      | [] => return ()
      | announcement :: announced =>
          let (text, rest, count) := documentLines announcement (reader.rest.length + 1) reader.rest
          set { reader with announced := announced }
          let word ← if announcement.quoted then pure (text.map (Piece.literal · true))
            else within { reader with rest := text, inDocument := true } (pieces fuel .document)
          modify fun reader => { reader with
            rest := rest
            line := reader.line + count
            documents := (announcement.number, word) :: reader.documents }
          collectDocuments fuel

/-- The next token. A caller may pass over line ends, and may look for keywords. -/
def token : Nat → Bool → Bool → Reading Token
  | 0, _, _ => return .endOfInput
  | fuel + 1, newlines, keywords => do
      match (← get).unused with
      | some found =>
          modify fun reader => { reader with unused := none }
          match found with
          | .newline => if newlines then token fuel newlines keywords else return found
          | .word word => return asKeyword keywords word
          | _ => return found
      | none =>
          match ← peek with
          | none =>
              collectDocuments fuel
              return .endOfInput
          | some ' ' | some '\t' =>
              discard takeRaw
              token fuel newlines keywords
          | some '#' =>
              comment fuel
              token fuel newlines keywords
          | some '\n' =>
              discard takeRaw
              collectDocuments fuel
              if newlines then token fuel newlines keywords else return .newline
          | some _ =>
              match ← operator? "&|;()" with
              | some operator => return .sign operator
              | none =>
                  match ← operator? "<>" with
                  | some operator =>
                      let isInput := operator.toList.head? == some '<'
                      return .redirection (if isInput then 0 else 1) operator
                  | none => wordToken keywords (← pieces fuel .word)
where
  asKeyword (keywords : Bool) (word : Word) : Token :=
    match word.plain? with
    | some text =>
        let name := String.ofList text
        if keywords && Token.keywords.contains name then .sign name else .word word
    | none => .word word
  /-- A digit belongs to a redirection that follows it at once. -/
  wordToken (keywords : Bool) (word : Word) : Reading Token := do
    match word with
    | [.literal digit false] =>
        if digit.isDigit then
          match ← operator? "<>" with
          | some operator => return .redirection (digit.toNat - '0'.toNat) operator
          | none => return .word word
        else return asKeyword keywords word
    | _ => return asKeyword keywords word

/-- Commands one after the other. -/
def list : Nat → Bool → Reading (Option Command)
  | 0, _ => return none
  | fuel + 1, mayBeEmpty => do
      let next ← token fuel true true
      unread next
      match next with
      | .endOfInput => return none
      | _ => if mayBeEmpty && next.isCloser then return none else listTail fuel (← andOr fuel true)

/-- What follows a command in a list. -/
def listTail : Nat → Command → Reading (Option Command)
  | 0, first => return some first
  | fuel + 1, first => do
      let line := (← get).line
      let continued (first : Command) : Reading (Option Command) := do
        match ← list fuel true with
        | none => return some first
        | some rest => return some (.sequence first rest)
      match ← token fuel false true with
      | .newline | .sign ";" => continued first
      | .sign "&" => continued (.background line first)
      | other =>
          unread other
          return some first

/-- Commands of which each is run if those before it went well, or badly. -/
def andOr : Nat → Bool → Reading Command
  | 0, _ => fail "Syntax error"
  | fuel + 1, newlines => do
      andOrTail fuel (← pipeline fuel newlines)

def andOrTail : Nat → Command → Reading Command
  | 0, first => return first
  | fuel + 1, first => do
      match ← token fuel false true with
      | .sign "&&" => andOrTail fuel (.both first (← pipeline fuel true))
      | .sign "||" => andOrTail fuel (.either first (← pipeline fuel true))
      | other =>
          unread other
          return first

def pipeline : Nat → Bool → Reading Command
  | 0, _ => fail "Syntax error"
  | fuel + 1, newlines => do
      let next ← token fuel newlines true
      let negated := next.isSign "!"
      if !negated then unread next
      let first ← command fuel (newlines && !negated)
      match ← pipelineTail fuel with
      | [] => return if negated then .pipeline true [first] else first
      | rest => return .pipeline negated (first :: rest)

def pipelineTail : Nat → Reading (List Command)
  | 0 => return []
  | fuel + 1 => do
      let next ← token fuel false true
      if next.isSign "|" then
        let next ← command fuel true
        return next :: (← pipelineTail fuel)
      else
        unread next
        return []

/-- Takes a sign that has to come next. -/
def expect : Nat → String → Bool → Reading Unit
  | 0, _, _ => return ()
  | fuel + 1, wanted, newlines => do
      let next ← token fuel newlines true
      if !next.isSign wanted then unexpected next (some wanted)

def command : Nat → Bool → Reading Command
  | 0, _ => fail "Syntax error"
  | fuel + 1, newlines => do
      let next ← token fuel newlines true
      let line := (← get).line
      match next with
      | .sign "if" =>
          let found ← conditional fuel
          redirected fuel line (some found)
      | .sign "while" => loop fuel line false
      | .sign "until" => loop fuel line true
      | .sign "for" => each fuel line
      | .sign "case" => choice fuel line
      | .sign "(" =>
          let body ← list fuel false
          expect fuel ")" false
          return .subshell line body (← redirections fuel)
      | .sign "\x7b" =>
          let body ← list fuel false
          expect fuel "\x7d" false
          redirected fuel line body
      | .word _ | .redirection _ _ =>
          unread next
          simple fuel line [] [] []
      | _ => unexpected next none

/-- The rest of a conditional after its first word. -/
def conditional : Nat → Reading Command
  | 0 => fail "Syntax error"
  | fuel + 1 => do
      let condition ← list fuel false
      expect fuel "then" false
      let yes ← list fuel false
      let next ← token fuel false true
      if next.isSign "elif" then
        return .conditional condition yes (some (← conditional fuel))
      else if next.isSign "else" then
        let no ← list fuel false
        expect fuel "fi" false
        return .conditional condition yes no
      else if next.isSign "fi" then return .conditional condition yes none
      else unexpected next (some "fi")

def loop : Nat → Nat → Bool → Reading Command
  | 0, _, _ => fail "Syntax error"
  | fuel + 1, line, negated => do
      let condition ← list fuel false
      expect fuel "do" false
      let body ← list fuel false
      expect fuel "done" false
      redirected fuel line (some (.loop negated condition body))

def each : Nat → Nat → Reading Command
  | 0, _ => fail "Syntax error"
  | fuel + 1, line => do
      let name := match ← token fuel false false with
        | .word word => word.plain?.filter isName
        | _ => none
      match name with
      | none => fail "Syntax error: Bad for loop variable"
      | some name =>
          let next ← token fuel true true
          let words ←
            if next.isSign "in" then
              let words ← wordsOf fuel
              match ← token fuel false false with
              | .newline | .sign ";" => pure words
              | other => unexpected other none
            else
              if !next.isSign ";" then unread next
              pure [[.parameter ['@'] .plain [] true]]
          expect fuel "do" true
          let body ← list fuel false
          expect fuel "done" false
          redirected fuel line (some (.each line name words body))

/-- Words up to the next token that is none. -/
def wordsOf : Nat → Reading (List Word)
  | 0 => return []
  | fuel + 1 => do
      match ← token fuel false false with
      | .word word => return word :: (← wordsOf fuel)
      | other =>
          unread other
          return []

def choice : Nat → Nat → Reading Command
  | 0, _ => fail "Syntax error"
  | fuel + 1, line => do
      match ← token fuel false false with
      | .word word =>
          expect fuel "in" true
          let branches ← branchesOf fuel
          redirected fuel line (some (.choice line word branches))
      | other => fail ("Syntax error: " ++ other.name ++ " unexpected (expecting word)")

/-- The branches of a choice with its last word. -/
def branchesOf : Nat → Reading (List (List Word × Option Command))
  | 0 => return []
  | fuel + 1 => do
      let next ← token fuel true true
      if next.isSign "esac" then return []
      else
        let next ← if next.isSign "(" then token fuel false false else pure next
        let patterns ← patternsOf fuel next
        let body ← list fuel true
        let branch := (patterns, body)
        let next ← token fuel true true
        if next.isSign "esac" then return [branch]
        else if next.isSign ";;" then return branch :: (← branchesOf fuel)
        else unexpected next (some ";;")

/-- Patterns of a branch, of which the first has been read, and the parenthesis behind them. -/
def patternsOf : Nat → Token → Reading (List Word)
  | 0, _ => return []
  | fuel + 1, first => do
      let pattern : Word := match first with
        | .word word => word
        | .sign text => text.toList.map (Piece.literal · false)
        | _ => []
      let next ← token fuel false false
      if next.isSign ")" then return [pattern]
      else if next.isSign "|" then
        return pattern :: (← patternsOf fuel (← token fuel false false))
      else unexpected next (some ")")

/-- A simple command, or the definition of a function. -/
def simple : Nat → Nat → List (Chars × Word) → List Word → List Redirection → Reading Command
  | 0, _, _, _, _ => fail "Syntax error"
  | fuel + 1, line, assignments, words, redirections => do
      match ← token fuel false false with
      | .word word =>
          match if words.isEmpty then word.assignment? else none with
          | some assignment => simple fuel line (assignments ++ [assignment]) words redirections
          | none => simple fuel line assignments (words ++ [word]) redirections
      | .redirection descriptor operator =>
          let redirection ← redirectionOf fuel descriptor operator
          simple fuel line assignments words (redirections ++ [redirection])
      | .sign "(" =>
          match assignments, words, redirections with
          | [], [name], [] =>
              let next ← token fuel false false
              if next.isSign ")" then
                match name.plain?.filter isFunctionName with
                | some name => return .define name (← command fuel true)
                | none => fail "Syntax error: Bad function name"
              else unexpected next (some ")")
          | _, _, _ =>
              unread (.sign "(")
              return .simple line assignments words redirections
      | other =>
          unread other
          return .simple line assignments words redirections

def redirectionOf : Nat → Nat → String → Reading Redirection
  | 0, _, _ => fail "Syntax error"
  | fuel + 1, descriptor, operator => do
      modify fun reader => { reader with inDelimiter := operator.startsWith "<<" }
      let next ← token fuel false false
      modify fun reader => { reader with inDelimiter := false }
      match next with
      | .word word =>
          match operator with
          | "<" => return .mk descriptor .input word
          | ">" | ">|" => return .mk descriptor .output word
          | ">>" => return .mk descriptor .append word
          | "<>" => return .mk descriptor .both word
          | "<<" => return .mk descriptor (.document (← announce word false)) []
          | "<<-" => return .mk descriptor (.document (← announce word true)) []
          | _ => return .mk descriptor .copy word
      | other => unexpected other none

def redirections : Nat → Reading (List Redirection)
  | 0 => return []
  | fuel + 1 => do
      match ← token fuel false true with
      | .redirection descriptor operator =>
          let redirection ← redirectionOf fuel descriptor operator
          return redirection :: (← redirections fuel)
      | other =>
          unread other
          return []

/-- A command with the redirections that follow it. -/
def redirected : Nat → Nat → Option Command → Reading Command
  | 0, _, _ => fail "Syntax error"
  | fuel + 1, line, body => do
      let found ← redirections fuel
      match body, found with
      | some body, [] => return body
      | body, found => return .redirected line body found

end

/-- One line of commands, or nothing at the end of a script. -/
def nextLine : Reading (Option (Option Command)) := do
  let fuel := 16 * ((← get).rest.length + 16)
  lineOf fuel none
where
  lineOf : Nat → Option Command → Reading (Option (Option Command))
    | 0, found => return some found
    | fuel + 1, found => do
        match ← token fuel false true with
        | .newline => return some found
        | .endOfInput => return found.map some
        | first =>
            unread first
            let next ← andOr fuel false
            let line := (← get).line
            let closing ← token fuel false true
            let next := if closing.isSign "&" then Command.background line next else next
            let found := match found with
              | some first => some (.sequence first next)
              | none => some next
            match closing with
            | .newline | .endOfInput =>
                unread closing
                lineOf fuel found
            | .sign ";" | .sign "&" => lineOf fuel found
            | other => unexpected other none

end Reader

end Confinement.Shell
