import MarkupAudit.Spec.Table

namespace MarkupAudit.SpecTable

namespace Html

/-- An attribute of a type. -/
def attr (name : String) (type : ValueType) : AttributeDecl where
  name := name
  type := type

/-- An element with its own attributes, which also takes the global ones. -/
def element (name : String) (attributes : List AttributeDecl) : String × ElementDecl :=
  (name, { attributes })

/-- The attributes that every element takes. -/
def global : List AttributeDecl :=
  [attr "accesskey" (.named .string),
   attr "autocapitalize" (.oneOf ["off", "none", "on", "sentences", "words", "characters"]),
   attr "autofocus" (.named .boolean), attr "class" (.named .string),
   attr "contenteditable" (.oneOf ["", "true", "false", "plaintext-only"]),
   attr "dir" (.oneOf ["ltr", "rtl", "auto"]), attr "draggable" (.oneOf ["true", "false"]),
   attr "enterkeyhint" (.oneOf ["enter", "done", "go", "next", "previous", "search", "send"]),
   attr "hidden" (.oneOf ["", "hidden", "until-found"]), attr "id" (.named .nonEmptyString),
   attr "inert" (.named .boolean),
   attr "inputmode"
     (.oneOf ["none", "text", "tel", "url", "email", "numeric", "decimal", "search"]),
   attr "is" (.named .string), attr "itemid" (.named .url), attr "itemprop" (.named .itemProp),
   attr "itemref" (.named .domIdList), attr "itemscope" (.named .boolean),
   attr "itemtype" (.named .urlList), attr "lang" (.named .bcp47), attr "nonce" (.named .string),
   attr "popover" (.oneOf ["", "auto", "manual"]), attr "slot" (.named .string),
   attr "spellcheck" (.oneOf ["", "true", "false"]), attr "style" (.named .cssDeclarationList),
   attr "tabindex" (.named .tabIndex), attr "title" (.named .string),
   attr "translate" (.oneOf ["", "yes", "no"]), attr "onblur" (.named .function),
   attr "onchange" (.named .function), attr "onclick" (.named .function),
   attr "onfocus" (.named .function), attr "oninput" (.named .function),
   attr "onkeydown" (.named .function), attr "onkeyup" (.named .function),
   attr "onload" (.named .function), attr "onmouseover" (.named .function),
   attr "onsubmit" (.named .function)]

/-- The elements. -/
def elements : List (String × ElementDecl) :=
  [element "a"
    [attr "href" (.named .url), attr "target" (.named .navigableTargetNameOrKeyword),
     attr "download" (.named .string), attr "ping" (.named .urlList), attr "rel" (.named .rel),
     attr "hreflang" (.named .bcp47), attr "type" (.named .mimeType),
     attr "referrerpolicy" (.named .referrerPolicy)],
   element "abbr" [],
   element "address" [],
   element "article" [],
   element "aside" [],
   element "audio"
    [attr "src" (.named .url), attr "crossorigin" (.oneOf ["anonymous", "use-credentials", ""]),
     attr "preload" (.oneOf ["none", "metadata", "auto", ""]), attr "autoplay" (.named .boolean),
     attr "loop" (.named .boolean), attr "muted" (.named .boolean),
     attr "controls" (.named .boolean)],
   element "b" [],
   element "bdi" [],
   element "blockquote" [attr "cite" (.named .url)],
   element "body" [],
   element "br" [],
   element "button"
    [attr "type" (.oneOf ["submit", "reset", "button"]), attr "disabled" (.named .boolean),
     attr "name" (.named .string), attr "value" (.named .string), attr "form" (.named .domId),
     attr "formaction" (.named .url), attr "popovertarget" (.named .domId)],
   element "canvas" [attr "width" (.named .nonNegative), attr "height" (.named .nonNegative)],
   element "caption" [],
   element "cite" [],
   element "code" [],
   element "col" [attr "span" (.named .positive)],
   element "colgroup" [attr "span" (.named .positive)],
   element "data" [attr "value" (.named .string)],
   element "dd" [],
   element "del" [attr "cite" (.named .url), attr "datetime" (.named .dateTime)],
   element "details" [attr "open" (.named .boolean), attr "name" (.named .string)],
   element "dfn" [],
   element "dialog" [attr "open" (.named .boolean)],
   element "div" [],
   element "dl" [],
   element "dt" [],
   element "em" [],
   element "fieldset" [],
   element "figcaption" [],
   element "figure" [],
   element "footer" [],
   element "form"
    [attr "action" (.named .url), attr "method" (.oneOf ["get", "post", "dialog"]),
     attr "enctype"
       (.oneOf ["application/x-www-form-urlencoded", "multipart/form-data", "text/plain"]),
     attr "novalidate" (.named .boolean), attr "target" (.named .navigableTargetNameOrKeyword),
     attr "autocomplete" (.oneOf ["on", "off"]), attr "name" (.named .string),
     attr "accept-charset" (.named .charset)],
   element "h1" [],
   element "h2" [],
   element "h3" [],
   element "h4" [],
   element "h5" [],
   element "h6" [],
   element "head" [],
   element "header" [],
   element "hgroup" [],
   element "hr" [],
   element "html" [],
   element "i" [],
   element "iframe"
    [attr "src" (.named .url), attr "srcdoc" (.named .string),
     attr "name" (.named .navigableTargetName), attr "sandbox" (.named .sandbox),
     attr "allow" (.named .string), attr "allowfullscreen" (.named .boolean),
     attr "width" (.named .nonNegative), attr "height" (.named .nonNegative),
     attr "referrerpolicy" (.named .referrerPolicy), attr "loading" (.oneOf ["lazy", "eager"])],
   element "img"
    [attr "alt" (.named .string), attr "src" (.named .url), attr "srcset" (.named .srcset),
     attr "sizes" (.named .sourceSizeList),
     attr "crossorigin" (.oneOf ["anonymous", "use-credentials", ""]),
     attr "usemap" (.named .fragment), attr "ismap" (.named .boolean),
     attr "width" (.named .nonNegative), attr "height" (.named .nonNegative),
     attr "referrerpolicy" (.named .referrerPolicy),
     attr "decoding" (.oneOf ["sync", "async", "auto"]),
     attr "loading" (.oneOf ["lazy", "eager"]),
     attr "fetchpriority" (.oneOf ["high", "low", "auto"])],
   element "input"
    [attr "type"
       (.oneOf ["hidden", "text", "search", "tel", "url", "email", "password", "date", "month",
         "week", "time", "datetime-local", "number", "range", "color", "checkbox", "radio", "file",
         "submit", "image", "reset", "button"]),
     attr "name" (.named .string), attr "value" (.named .string),
     attr "checked" (.named .boolean), attr "disabled" (.named .boolean),
     attr "max" (.named .string), attr "min" (.named .string),
     attr "maxlength" (.named .nonNegative), attr "minlength" (.named .nonNegative),
     attr "size" (.named .positive), attr "step" (.named .string),
     attr "placeholder" (.named .string), attr "required" (.named .boolean),
     attr "readonly" (.named .boolean), attr "multiple" (.named .boolean),
     attr "autocomplete" (.named .autoComplete), attr "form" (.named .domId),
     attr "list" (.named .domId), attr "pattern" (.named .pattern),
     attr "accept" (.named .accept), attr "src" (.named .url), attr "alt" (.named .string),
     attr "width" (.named .nonNegative), attr "height" (.named .nonNegative)],
   element "ins" [attr "cite" (.named .url), attr "datetime" (.named .dateTime)],
   element "kbd" [],
   element "label" [attr "for" (.named .domId)],
   element "legend" [],
   element "li" [attr "value" (.named .integer)],
   element "link"
    [attr "href" (.named .url), attr "rel" (.named .rel), attr "media" (.named .mediaQueryList),
     attr "type" (.named .mimeType), attr "sizes" (.named .iconSize),
     attr "crossorigin" (.oneOf ["anonymous", "use-credentials", ""]),
     attr "referrerpolicy" (.named .referrerPolicy),
     attr "as"
       (.oneOf ["audio", "document", "embed", "fetch", "font", "image", "object", "script", "style",
         "track", "video", "worker"]),
     attr "integrity" (.named .string), attr "hreflang" (.named .bcp47)],
   element "main" [],
   element "mark" [],
   element "menu" [],
   element "meta"
    [attr "name" (.named .string), attr "content" (.named .string),
     attr "charset" (.oneOf ["utf-8"]),
     attr "http-equiv"
       (.oneOf ["content-language", "content-type", "default-style", "refresh", "set-cookie",
         "x-ua-compatible", "content-security-policy"]),
     attr "media" (.named .mediaQueryList)],
   element "meter"
    [attr "value" (.named .float), attr "min" (.named .float), attr "max" (.named .float),
     attr "low" (.named .float), attr "high" (.named .float), attr "optimum" (.named .float)],
   element "nav" [],
   element "noscript" [],
   element "ol"
    [attr "reversed" (.named .boolean), attr "start" (.named .integer),
     attr "type" (.oneOf ["1", "a", "i"])],
   element "option"
    [attr "value" (.named .string), attr "selected" (.named .boolean),
     attr "disabled" (.named .boolean), attr "label" (.named .string)],
   element "output"
    [attr "for" (.named .domIdList), attr "form" (.named .domId), attr "name" (.named .string)],
   element "p" [],
   element "picture" [],
   element "pre" [],
   element "progress" [attr "value" (.named .float), attr "max" (.named .float)],
   element "q" [attr "cite" (.named .url)],
   element "rp" [],
   element "rt" [],
   element "ruby" [],
   element "s" [],
   element "samp" [],
   element "script"
    [attr "src" (.named .url), attr "type" (.named .string), attr "async" (.named .boolean),
     attr "defer" (.named .boolean),
     attr "crossorigin" (.oneOf ["anonymous", "use-credentials", ""]),
     attr "integrity" (.named .string), attr "nomodule" (.named .boolean),
     attr "referrerpolicy" (.named .referrerPolicy), attr "blocking" (.oneOf ["render"])],
   element "search" [],
   element "section" [],
   element "select"
    [attr "name" (.named .string), attr "multiple" (.named .boolean),
     attr "disabled" (.named .boolean), attr "required" (.named .boolean),
     attr "size" (.named .positive), attr "form" (.named .domId),
     attr "autocomplete" (.named .autoComplete)],
   element "small" [],
   element "source"
    [attr "src" (.named .url), attr "srcset" (.named .srcset),
     attr "sizes" (.named .sourceSizeList), attr "media" (.named .mediaQueryList),
     attr "type" (.named .mimeType), attr "width" (.named .nonNegative),
     attr "height" (.named .nonNegative)],
   element "span" [],
   element "strong" [],
   element "style" [attr "media" (.named .mediaQueryList), attr "blocking" (.oneOf ["render"])],
   element "sub" [],
   element "summary" [],
   element "sup" [],
   element "table" [],
   element "tbody" [],
   element "td"
    [attr "colspan" (.named .columnSpan), attr "rowspan" (.named .rowSpan),
     attr "headers" (.named .domIdList)],
   element "template" [],
   element "textarea"
    [attr "cols" (.named .positive), attr "rows" (.named .positive),
     attr "maxlength" (.named .nonNegative), attr "minlength" (.named .nonNegative),
     attr "wrap" (.oneOf ["soft", "hard"]), attr "name" (.named .string),
     attr "placeholder" (.named .string), attr "readonly" (.named .boolean),
     attr "required" (.named .boolean), attr "disabled" (.named .boolean)],
   element "tfoot" [],
   element "th"
    [attr "colspan" (.named .columnSpan), attr "rowspan" (.named .rowSpan),
     attr "headers" (.named .domIdList),
     attr "scope" (.oneOf ["row", "col", "rowgroup", "colgroup"]), attr "abbr" (.named .string)],
   element "thead" [],
   element "time" [attr "datetime" (.named .dateTime)],
   element "title" [],
   element "tr" [],
   element "u" [],
   element "ul" [],
   element "var" [],
   element "video"
    [attr "src" (.named .url), attr "crossorigin" (.oneOf ["anonymous", "use-credentials", ""]),
     attr "preload" (.oneOf ["none", "metadata", "auto", ""]), attr "autoplay" (.named .boolean),
     attr "loop" (.named .boolean), attr "muted" (.named .boolean),
     attr "controls" (.named .boolean), attr "poster" (.named .url),
     attr "playsinline" (.named .boolean), attr "width" (.named .nonNegative),
     attr "height" (.named .nonNegative)],
   element "wbr" []]

end Html

/-- The table of HTML. -/
def html : SpecTable where
  global := Html.global
  elements := Html.elements

end MarkupAudit.SpecTable
