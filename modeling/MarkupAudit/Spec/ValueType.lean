import MarkupAudit.Json.Decode
import MarkupAudit.Text.Case

namespace MarkupAudit

/-- The named types of attribute values; `unknown` stands for every name not among the others. Most
of them are known by name only and accept every value. -/
inductive NamedType where
  | string | nonEmptyString | boolean | function | date | dateTime | integer | nonNegative | float
  | positive | zeroToOne | columnSpan | rowSpan | tabIndex | referrerPolicy | blendMode | angle
  | opacity | fragment | url | absoluteUrl | urlList | domId | domIdList | itemProp | accept
  | autoComplete | bcp47 | charset | color | coords | crossOrigin | iconSize | mimeType
  | mediaQueryList | navigableTargetName | navigableTargetNameOrKeyword | pattern | rel | sandbox
  | sourceSizeList | srcset | target | uniqueId | cssDeclarationList | cssColor | cssFontFamily
  | cssFontSize | cssFontWeight | cssDisplay | cssTransformList | cssCursor | svgAngle | svgLength
  | svgLengthList | svgNumber | svgNumberList | svgNumberOptionalNumber | svgPathData | svgPoints
  | svgPreserveAspectRatio | svgTransformList | svgViewBox | svgClockValue | svgKeyTimes
  | svgKeySplines | svgKeyPoints | svgIri | svgFuncIri | svgFilterPrimitiveReference
  | svgAnimatableValue | svgAttributeName | svgPercentage | svgFontSize | unknown
  deriving DecidableEq, Repr

namespace NamedType

/-- All named types. -/
def all : List NamedType :=
  [.string, .nonEmptyString, .boolean, .function, .date, .dateTime, .integer, .nonNegative, .float,
   .positive, .zeroToOne, .columnSpan, .rowSpan, .tabIndex, .referrerPolicy, .blendMode, .angle,
   .opacity, .fragment, .url, .absoluteUrl, .urlList, .domId, .domIdList, .itemProp, .accept,
   .autoComplete, .bcp47, .charset, .color, .coords, .crossOrigin, .iconSize, .mimeType,
   .mediaQueryList, .navigableTargetName, .navigableTargetNameOrKeyword, .pattern, .rel, .sandbox,
   .sourceSizeList, .srcset, .target, .uniqueId, .cssDeclarationList, .cssColor, .cssFontFamily,
   .cssFontSize, .cssFontWeight, .cssDisplay, .cssTransformList, .cssCursor, .svgAngle, .svgLength,
   .svgLengthList, .svgNumber, .svgNumberList, .svgNumberOptionalNumber, .svgPathData, .svgPoints,
   .svgPreserveAspectRatio, .svgTransformList, .svgViewBox, .svgClockValue, .svgKeyTimes,
   .svgKeySplines, .svgKeyPoints, .svgIri, .svgFuncIri, .svgFilterPrimitiveReference,
   .svgAnimatableValue, .svgAttributeName, .svgPercentage, .svgFontSize, .unknown]

/-- The name by which tables and settings refer to the type. -/
def name : NamedType → String
  | .string => "String"
  | .nonEmptyString => "NonEmptyString"
  | .boolean => "Boolean"
  | .function => "Function"
  | .date => "Date"
  | .dateTime => "DateTime"
  | .integer => "Int"
  | .nonNegative => "Uint"
  | .float => "Float"
  | .positive => "NonZeroUint"
  | .zeroToOne => "ZeroToOne"
  | .columnSpan => "ColSpan"
  | .rowSpan => "RowSpan"
  | .tabIndex => "TabIndex"
  | .referrerPolicy => "ReferrerPolicy"
  | .blendMode => "CSSBlendMode"
  | .angle => "CSSAngle"
  | .opacity => "CSSOpacity"
  | .fragment => "URLHash"
  | .url => "URL"
  | .absoluteUrl => "AbsoluteURL"
  | .urlList => "URLList"
  | .domId => "DOMID"
  | .domIdList => "DOMIDList"
  | .itemProp => "ItemProp"
  | .accept => "Accept"
  | .autoComplete => "AutoComplete"
  | .bcp47 => "BCP47"
  | .charset => "Charset"
  | .color => "Color"
  | .coords => "Coords"
  | .crossOrigin => "CrossOrigin"
  | .iconSize => "IconSize"
  | .mimeType => "MIMEType"
  | .mediaQueryList => "MediaQueryList"
  | .navigableTargetName => "NavigableTargetName"
  | .navigableTargetNameOrKeyword => "NavigableTargetNameOrKeyword"
  | .pattern => "Pattern"
  | .rel => "Rel"
  | .sandbox => "Sandbox"
  | .sourceSizeList => "SourceSizeList"
  | .srcset => "Srcset"
  | .target => "Target"
  | .uniqueId => "UniqueID"
  | .cssDeclarationList => "CSSDeclarationList"
  | .cssColor => "CSSColor"
  | .cssFontFamily => "CSSFontFamily"
  | .cssFontSize => "CSSFontSize"
  | .cssFontWeight => "CSSFontWeight"
  | .cssDisplay => "CSSDisplay"
  | .cssTransformList => "CSSTransformList"
  | .cssCursor => "CSSCursor"
  | .svgAngle => "SVGAngle"
  | .svgLength => "SVGLength"
  | .svgLengthList => "SVGLengthList"
  | .svgNumber => "SVGNumber"
  | .svgNumberList => "SVGNumberList"
  | .svgNumberOptionalNumber => "SVGNumberOptionalNumber"
  | .svgPathData => "SVGPathData"
  | .svgPoints => "SVGPoints"
  | .svgPreserveAspectRatio => "SVGPreserveAspectRatio"
  | .svgTransformList => "SVGTransformList"
  | .svgViewBox => "SVGViewBox"
  | .svgClockValue => "SVGClockValue"
  | .svgKeyTimes => "SVGKeyTimes"
  | .svgKeySplines => "SVGKeySplines"
  | .svgKeyPoints => "SVGKeyPoints"
  | .svgIri => "SVGIRI"
  | .svgFuncIri => "SVGFuncIRI"
  | .svgFilterPrimitiveReference => "SVGFilterPrimitiveReference"
  | .svgAnimatableValue => "SVGAnimatableValue"
  | .svgAttributeName => "SVGAttributeName"
  | .svgPercentage => "SVGPercentage"
  | .svgFontSize => "SVGFontSize"
  | .unknown => "Unknown"

/-- The type of a name. -/
def ofName (s : String) : NamedType :=
  (all.find? (·.name == s)).getD .unknown

end NamedType

/-- A type of attribute values: one of several literals, kept in lower case, or a named type. -/
inductive ValueType where
  | oneOf (values : List String)
  | named (type : NamedType)
  deriving DecidableEq, Repr

namespace ValueType

/-- The type with the given literals, in any case. -/
def enumeration (values : List String) : ValueType :=
  .oneOf (values.map Text.lowercase)

/-- The literals of an enumeration: the member `enum`, which is a list of texts. -/
def literals? : Json → Option (List String)
  | .object members =>
    match Json.single? members "enum" with
    | some (some j) => Json.list? Json.string? j
    | _ => none
  | _ => none

/-- Reads a type: an object with the literals, or a name. The value is taken over whole before it
is looked at, so nothing in it may be unreadable. -/
def ofJson? (j : Json) : Option ValueType :=
  if j.readable then
    match literals? j with
    | some values => some (enumeration values)
    | none => j.name?.map fun s => .named (.ofName s)
  else none

/-- Writes a type. -/
def toJson : ValueType → Json
  | .oneOf values => .object [("enum", Json.ofList Json.string values)]
  | .named type => .string type.name

end ValueType

end MarkupAudit
