import MarkupAudit.Json.Decode
import MarkupAudit.Message.Phrase

namespace MarkupAudit

/-- A locale: a tag, words that replace keywords, and sentences that replace templates. Of two
entries with one key the first counts. -/
structure Locale where
  tag : String
  keywords : List (String × String) := []
  sentences : List (String × String) := []
  deriving DecidableEq, Repr

namespace Locale

open Message

/-- English: every template is its own sentence. -/
def english : Locale where
  tag := "en"

/-- Japanese. -/
def japanese : Locale where
  tag := "ja"
  keywords := [("content", "コンテンツ"), ("disallowed", "許可されていません")]
  sentences :=
    [(Phrase.pair, "\x7b0*\x7dまたは\x7b1*\x7d"),
     (Phrase.listEnd, "\x7b0*\x7d、または\x7b1*\x7d"),
     (Phrase.listNext, "\x7b0*\x7d、\x7b1*\x7d"),
     (Phrase.shouldBe, "\x7b0\x7dは\x7b1:c\x7dにしてください"),
     (Phrase.shouldMatch, "\x7b0\x7dは\x7b1:c\x7dに一致させてください"),
     (Phrase.duplicated, "\x7b0\x7dが重複しています"),
     (Phrase.sameBelow, "\x7b0\x7dは\x7b1\x7d未満の場合\x7b1\x7dと同じ動作をします"),
     (Phrase.disallowed, "「\x7b0*\x7d」属性は許可されていません"),
     (Phrase.theAttribute, "「\x7b0*\x7d」属性"),
     (Phrase.theClassName, "「\x7b0*\x7d」クラス名"),
     (Phrase.either, "\x7b0*\x7dのいずれか"),
     (Phrase.orElse, "\x7b0:c\x7dまたは\x7b1:c\x7d"),
     (Phrase.nonEmptyString, "空でない文字列"),
     (Phrase.integer, "整数"),
     (Phrase.nonNegativeInteger, "非負整数"),
     (Phrase.positiveInteger, "正の整数"),
     (Phrase.floatingPoint, "浮動小数点数"),
     (Phrase.integerBetween, "\x7b0\x7dから\x7b1\x7dまでの整数"),
     (Phrase.numberBetween, "\x7b0\x7dから\x7b1\x7dまでの数値"),
     (Phrase.percentageBetween, "\x7b0\x7dから\x7b1\x7dまでのパーセンテージ"),
     (Phrase.angle, "\x7b0*\x7dの単位を持つ角度"),
     (Phrase.fragment, "\x7b0*\x7dで始まるフラグメント"),
     (Phrase.require, "\x7b0\x7dが必要です")]

/-- The language of a tag: what stands before the first hyphen or underscore. -/
def language (tag : String) : String :=
  String.ofList (tag.toList.takeWhile fun c => c != '-' && c != '_')

/-- The bundled locale of a tag. -/
def bundled? (tag : String) : Option Locale :=
  if language tag = "en" then some english
  else if language tag = "ja" then some japanese
  else none

/-- The complaint about a tag without a bundled locale. -/
def unsupportedMessage (tag : String) : String :=
  "Unsupported locale: " ++ tag

/-- Reads a locale. -/
def ofJson? (j : Json) : Option Locale := do
  match (← j.record? ["locale", "keywords", "sentences"]).fields with
  | [tag, keywords, sentences] =>
    return {
      tag := ← Json.required Json.string? tag
      keywords := ← Json.defaulting [] (Json.dictionary? Json.string?) keywords
      sentences := ← Json.defaulting [] (Json.dictionary? Json.string?) sentences }
  | _ => none

/-- Writes a locale. -/
def toJson (l : Locale) : Json :=
  let dictionary (entries : List (String × String)) : Json :=
    .object (entries.map fun (key, text) => (key, .string text))
  .object [("locale", .string l.tag), ("keywords", dictionary l.keywords),
    ("sentences", dictionary l.sentences)]

end Locale

end MarkupAudit
