namespace MarkupAudit.Text.Property

/-- A set of characters: its names, in lower case and without blanks, hyphens and underscores, and
its ranges in their written form, line by line. -/
structure NamedRanges where
  names : List String
  ranges : List String

end MarkupAudit.Text.Property
