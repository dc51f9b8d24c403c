namespace MarkupAudit.Message.Phrase

/-- Two alternatives. -/
def pair : String := "\x7b0*\x7d or \x7b1*\x7d"

/-- The last of three or more alternatives. -/
def listEnd : String := "\x7b0*\x7d, or \x7b1*\x7d"

/-- The next of three or more alternatives. -/
def listNext : String := "\x7b0*\x7d, \x7b1*\x7d"

/-- What something should be. -/
def shouldBe : String := "\x7b0\x7d should be \x7b1:c\x7d"

/-- What something should match. -/
def shouldMatch : String := "\x7b0\x7d should match \x7b1:c\x7d"

/-- Something occurs twice. -/
def duplicated : String := "\x7b0\x7d is duplicated"

/-- Values below a bound are taken for the bound. -/
def sameBelow : String := "\x7b0\x7d behaves the same as \x7b1\x7d when it is less than \x7b1\x7d"

/-- An attribute does not exist. -/
def disallowed : String := "\"\x7b0*\x7d\" attribute is disallow"

/-- An attribute as a subject. -/
def theAttribute : String := "the \"\x7b0*\x7d\" attribute"

/-- A class name as a subject. -/
def theClassName : String := "the \"\x7b0*\x7d\" class name"

/-- One of several alternatives. -/
def either : String := "either \x7b0*\x7d"

/-- One of two expectations. -/
def orElse : String := "\x7b0:c\x7d or \x7b1:c\x7d"

def nonEmptyString : String := "a non-empty string"

def integer : String := "an integer"

def nonNegativeInteger : String := "a non-negative integer"

def positiveInteger : String := "a positive integer"

def floatingPoint : String := "a floating-point number"

def integerBetween : String := "an integer between \x7b0\x7d and \x7b1\x7d"

def numberBetween : String := "a number between \x7b0\x7d and \x7b1\x7d"

def percentageBetween : String := "a percentage between \x7b0\x7d and \x7b1\x7d"

/-- An angle in one of several units. -/
def angle : String := "an angle in \x7b0*\x7d"

/-- A fragment with a given start. -/
def fragment : String := "a fragment starting with \x7b0*\x7d"

/-- Something is missing. -/
def require : String := "Require \x7b0\x7d"

end MarkupAudit.Message.Phrase
