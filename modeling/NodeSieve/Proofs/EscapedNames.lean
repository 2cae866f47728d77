import NodeSieve.Proofs.Joining

/-!
# Escaped names

The canonical text puts a type's name between quotes with a backslash in front
of every backslash, quote and comma. Three readers look at it after that, each
with an account of escapes of its own: one looks for the closing quote, one
for commas that separate, and one resolves the escapes.

Brackets are not escaped, and the second reader counts them. So its state runs
off with every bracket of the name and need not be back at the end. That does
no harm, since no comma of the text stands without its backslash, whatever the
state (`Protects.unsplitFrom`), and the two others have no state but the
pending backslash.

Trimming comes between the second and the third. It takes what is blank from
the ends of the name and never half of an escape, because escaping leaves
blanks as they are (`trimBlanks_escapeTag`).
-/

namespace NodeSieve.Definition

open NodeSieve.Unicode NodeSieve.Filter

theorem readQuoted?_escapeTag (name rest : List Char) :
    readQuoted? (escapeTag name ++ '\'' :: rest) = some (escapeTag name, rest) :=
  readQuoted?_eq_some_iff.mpr ⟨quotedContent_escapeTag name, rfl⟩

theorem escapeTag_eq_nil_iff {name : List Char} : escapeTag name = [] ↔ name = [] := by
  constructor
  · intro h
    rw [← unescape_escapeTag name, h]
    rfl
  · intro h
    rw [h]
    rfl

theorem groupTexts_escapeTag (name : List Char) :
    groupTexts (escapeTag name) = [escapeTag (trimBlanks name)] := by
  rw [groupTexts, splitPatterns_escapeTag, List.map_singleton, trimBlanks_escapeTag]

/-- An argument that is an escaped name is read as one text. It is the name
without the blanks around it, and only if nothing else is in the name is it
refused. -/
theorem readArgument_escapeTag (owner : String) (allowBare first : Bool)
    (name rest : List Char) :
    readArgument owner allowBare first (inQuotes (escapeTag name) ++ rest) =
      if trimBlanks name = [] then
        .error ⟨inQuotes (escapeTag name) ++ rest, .nonEmptyPatterns owner, .emptyPattern⟩
      else .ok ([escapeTag (trimBlanks name)], rest) := by
  rw [readArgument_quoted (quotedContent_escapeTag name), groupTexts_escapeTag]
  refine if_congr ?_ rfl rfl
  rw [List.mem_singleton, eq_comm, escapeTag_eq_nil_iff]

/-- An escaped name survives every reader: its own closing quote is the one
that is found, no comma in it separates, and resolving the escapes gives the
name. A text without a backslash is its own name, with the escapes resolved or
not. -/
theorem escapeTag_survives_reading (name : List Char) :
    (∀ rest, readQuoted? (escapeTag name ++ '\'' :: rest) = some (escapeTag name, rest)) ∧
      splitPatterns (escapeTag name) = [escapeTag name] ∧
      unescape (escapeTag name) = name ∧
      (∀ owner allowBare first rest,
        readArgument owner allowBare first (inQuotes (escapeTag name) ++ rest) =
          if trimBlanks name = [] then
            .error ⟨inQuotes (escapeTag name) ++ rest, .nonEmptyPatterns owner, .emptyPattern⟩
          else .ok ([escapeTag (trimBlanks name)], rest)) ∧
      (∀ literal, '\\' ∉ literal → unescape literal = literal ∧ unescapeEach literal = literal) ∧
      ∀ literal, unescape literal = unescapeEach literal := by
  refine ⟨readQuoted?_escapeTag name, splitPatterns_escapeTag name, unescape_escapeTag name, ?_,
    ?_, unescape_eq_unescapeEach⟩
  · exact fun owner allowBare first rest => readArgument_escapeTag owner allowBare first name rest
  · intro literal h
    have heach := unescapeEach_of_not_mem h
    exact ⟨(unescape_eq_unescapeEach literal).trans heach, heach⟩

/-- Brackets that are never closed, a comma among them, and a row of
backslashes in front of a quote; and a text that has brackets only. -/
theorem escapeTag_survives_reading_of_brackets :
    let name := " [(\x7b,\\\\' ".toList
    escapeTag name = " [(\x7b\\,\\\\\\\\\\' ".toList ∧
      readQuoted? (escapeTag name ++ "','b')".toList) = some (escapeTag name, ",'b')".toList) ∧
      splitPatterns (escapeTag name) = [escapeTag name] ∧ unescape (escapeTag name) = name ∧
      readArgument "Type" true true (inQuotes (escapeTag name) ++ [')']) =
        .ok (["[(\x7b\\,\\\\\\\\\\'".toList], [')']) ∧
      '\\' ∉ "[(\x7b".toList ∧ unescapeEach "[(\x7b".toList = "[(\x7b".toList := by
  intro name
  obtain ⟨hquote, hsplit, hname, hargument, hplain, -⟩ := escapeTag_survives_reading name
  have hslash : '\\' ∉ "[(\x7b".toList := by decide
  refine ⟨by decide, hquote _, hsplit, hname, ?_, hslash, (hplain _ hslash).2⟩
  rw [hargument, if_neg (by decide)]
  decide

end NodeSieve.Definition
