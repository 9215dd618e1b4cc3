namespace TemplateMarkup.Bundled

-- Lines, each with a line feed at its end.
def joinLines (lines : List String) : String :=
  String.join (lines.map (· ++ "\n"))

-- The entity set of Latin 1.
def latin1Entities : String := joinLines [
  "<!-- Portions (C) International Organization for Standardization 1986",
  "     Permission to copy in any form is granted for use with",
  "     conforming SGML systems and applications as defined in",
  "     ISO 8879, provided this notice is included in all copies.",
  "-->",
  "<!-- Character entity set. Typical invocation:",
  "    <!ENTITY % HTMLlat1 PUBLIC",
  "       \"-//W3C//ENTITIES Latin 1 for XHTML//EN\"",
  "       \"http://www.w3.org/TR/xhtml1/DTD/xhtml-lat1.ent\">",
  "    %HTMLlat1;",
  "-->",
  "",
  "<!ENTITY nbsp     \"&#160;\">",
  "<!ENTITY iexcl    \"&#161;\">",
  "<!ENTITY cent     \"&#162;\">",
  "<!ENTITY pound    \"&#163;\">",
  "<!ENTITY curren   \"&#164;\">",
  "<!ENTITY yen      \"&#165;\">",
  "<!ENTITY brvbar   \"&#166;\">",
  "<!ENTITY sect     \"&#167;\">",
  "<!ENTITY uml      \"&#168;\">",
  "<!ENTITY copy     \"&#169;\">",
  "<!ENTITY ordf     \"&#170;\">",
  "<!ENTITY laquo    \"&#171;\">",
  "<!ENTITY not      \"&#172;\">",
  "<!ENTITY shy      \"&#173;\">",
  "<!ENTITY reg      \"&#174;\">",
  "<!ENTITY macr     \"&#175;\">",
  "<!ENTITY deg      \"&#176;\">",
  "<!ENTITY plusmn   \"&#177;\">",
  "<!ENTITY sup2     \"&#178;\">",
  "<!ENTITY sup3     \"&#179;\">",
  "<!ENTITY acute    \"&#180;\">",
  "<!ENTITY micro    \"&#181;\">",
  "<!ENTITY para     \"&#182;\">",
  "<!ENTITY middot   \"&#183;\">",
  "<!ENTITY cedil    \"&#184;\">",
  "<!ENTITY sup1     \"&#185;\">",
  "<!ENTITY ordm     \"&#186;\">",
  "<!ENTITY raquo    \"&#187;\">",
  "<!ENTITY frac14   \"&#188;\">",
  "<!ENTITY frac12   \"&#189;\">",
  "<!ENTITY frac34   \"&#190;\">",
  "<!ENTITY iquest   \"&#191;\">",
  "<!ENTITY Agrave   \"&#192;\">",
  "<!ENTITY Aacute   \"&#193;\">",
  "<!ENTITY Acirc    \"&#194;\">",
  "<!ENTITY Atilde   \"&#195;\">",
  "<!ENTITY Auml     \"&#196;\">",
  "<!ENTITY Aring    \"&#197;\">",
  "<!ENTITY AElig    \"&#198;\">",
  "<!ENTITY Ccedil   \"&#199;\">",
  "<!ENTITY Egrave   \"&#200;\">",
  "<!ENTITY Eacute   \"&#201;\">",
  "<!ENTITY Ecirc    \"&#202;\">",
  "<!ENTITY Euml     \"&#203;\">",
  "<!ENTITY Igrave   \"&#204;\">",
  "<!ENTITY Iacute   \"&#205;\">",
  "<!ENTITY Icirc    \"&#206;\">",
  "<!ENTITY Iuml     \"&#207;\">",
  "<!ENTITY ETH      \"&#208;\">",
  "<!ENTITY Ntilde   \"&#209;\">",
  "<!ENTITY Ograve   \"&#210;\">",
  "<!ENTITY Oacute   \"&#211;\">",
  "<!ENTITY Ocirc    \"&#212;\">",
  "<!ENTITY Otilde   \"&#213;\">",
  "<!ENTITY Ouml     \"&#214;\">",
  "<!ENTITY times    \"&#215;\">",
  "<!ENTITY Oslash   \"&#216;\">",
  "<!ENTITY Ugrave   \"&#217;\">",
  "<!ENTITY Uacute   \"&#218;\">",
  "<!ENTITY Ucirc    \"&#219;\">",
  "<!ENTITY Uuml     \"&#220;\">",
  "<!ENTITY Yacute   \"&#221;\">",
  "<!ENTITY THORN    \"&#222;\">",
  "<!ENTITY szlig    \"&#223;\">",
  "<!ENTITY agrave   \"&#224;\">",
  "<!ENTITY aacute   \"&#225;\">",
  "<!ENTITY acirc    \"&#226;\">",
  "<!ENTITY atilde   \"&#227;\">",
  "<!ENTITY auml     \"&#228;\">",
  "<!ENTITY aring    \"&#229;\">",
  "<!ENTITY aelig    \"&#230;\">",
  "<!ENTITY ccedil   \"&#231;\">",
  "<!ENTITY egrave   \"&#232;\">",
  "<!ENTITY eacute   \"&#233;\">",
  "<!ENTITY ecirc    \"&#234;\">",
  "<!ENTITY euml     \"&#235;\">",
  "<!ENTITY igrave   \"&#236;\">",
  "<!ENTITY iacute   \"&#237;\">",
  "<!ENTITY icirc    \"&#238;\">",
  "<!ENTITY iuml     \"&#239;\">",
  "<!ENTITY eth      \"&#240;\">",
  "<!ENTITY ntilde   \"&#241;\">",
  "<!ENTITY ograve   \"&#242;\">",
  "<!ENTITY oacute   \"&#243;\">",
  "<!ENTITY ocirc    \"&#244;\">",
  "<!ENTITY otilde   \"&#245;\">",
  "<!ENTITY ouml     \"&#246;\">",
  "<!ENTITY divide   \"&#247;\">",
  "<!ENTITY oslash   \"&#248;\">",
  "<!ENTITY ugrave   \"&#249;\">",
  "<!ENTITY uacute   \"&#250;\">",
  "<!ENTITY ucirc    \"&#251;\">",
  "<!ENTITY uuml     \"&#252;\">",
  "<!ENTITY yacute   \"&#253;\">",
  "<!ENTITY thorn    \"&#254;\">",
  "<!ENTITY yuml     \"&#255;\">"]

-- The entity set of mathematical signs, Greek letters and symbols.
def symbolEntities : String := joinLines [
  "<!-- Mathematical, Greek and Symbolic characters for XHTML -->",
  "",
  "<!-- Character entity set. Typical invocation:",
  "     <!ENTITY % HTMLsymbol PUBLIC",
  "        \"-//W3C//ENTITIES Symbols for XHTML//EN\"",
  "        \"http://www.w3.org/TR/xhtml1/DTD/xhtml-symbol.ent\">",
  "     %HTMLsymbol;",
  "-->",
  "",
  "<!-- Latin Extended-B -->",
  "<!ENTITY fnof     \"&#402;\">",
  "",
  "<!-- Greek -->",
  "<!ENTITY Alpha    \"&#913;\">",
  "<!ENTITY Beta     \"&#914;\">",
  "<!ENTITY Gamma    \"&#915;\">",
  "<!ENTITY Delta    \"&#916;\">",
  "<!ENTITY Epsilon  \"&#917;\">",
  "<!ENTITY Zeta     \"&#918;\">",
  "<!ENTITY Eta      \"&#919;\">",
  "<!ENTITY Theta    \"&#920;\">",
  "<!ENTITY Iota     \"&#921;\">",
  "<!ENTITY Kappa    \"&#922;\">",
  "<!ENTITY Lambda   \"&#923;\">",
  "<!ENTITY Mu       \"&#924;\">",
  "<!ENTITY Nu       \"&#925;\">",
  "<!ENTITY Xi       \"&#926;\">",
  "<!ENTITY Omicron  \"&#927;\">",
  "<!ENTITY Pi       \"&#928;\">",
  "<!ENTITY Rho      \"&#929;\">",
  "<!ENTITY Sigma    \"&#931;\">",
  "<!ENTITY Tau      \"&#932;\">",
  "<!ENTITY Upsilon  \"&#933;\">",
  "<!ENTITY Phi      \"&#934;\">",
  "<!ENTITY Chi      \"&#935;\">",
  "<!ENTITY Psi      \"&#936;\">",
  "<!ENTITY Omega    \"&#937;\">",
  "<!ENTITY alpha    \"&#945;\">",
  "<!ENTITY beta     \"&#946;\">",
  "<!ENTITY gamma    \"&#947;\">",
  "<!ENTITY delta    \"&#948;\">",
  "<!ENTITY epsilon  \"&#949;\">",
  "<!ENTITY zeta     \"&#950;\">",
  "<!ENTITY eta      \"&#951;\">",
  "<!ENTITY theta    \"&#952;\">",
  "<!ENTITY iota     \"&#953;\">",
  "<!ENTITY kappa    \"&#954;\">",
  "<!ENTITY lambda   \"&#955;\">",
  "<!ENTITY mu       \"&#956;\">",
  "<!ENTITY nu       \"&#957;\">",
  "<!ENTITY xi       \"&#958;\">",
  "<!ENTITY omicron  \"&#959;\">",
  "<!ENTITY pi       \"&#960;\">",
  "<!ENTITY rho      \"&#961;\">",
  "<!ENTITY sigmaf   \"&#962;\">",
  "<!ENTITY sigma    \"&#963;\">",
  "<!ENTITY tau      \"&#964;\">",
  "<!ENTITY upsilon  \"&#965;\">",
  "<!ENTITY phi      \"&#966;\">",
  "<!ENTITY chi      \"&#967;\">",
  "<!ENTITY psi      \"&#968;\">",
  "<!ENTITY omega    \"&#969;\">",
  "<!ENTITY thetasym \"&#977;\">",
  "<!ENTITY upsih    \"&#978;\">",
  "<!ENTITY piv      \"&#982;\">",
  "",
  "<!-- General Punctuation -->",
  "<!ENTITY bull     \"&#8226;\">",
  "<!ENTITY hellip   \"&#8230;\">",
  "<!ENTITY prime    \"&#8242;\">",
  "<!ENTITY Prime    \"&#8243;\">",
  "<!ENTITY oline    \"&#8254;\">",
  "<!ENTITY frasl    \"&#8260;\">",
  "",
  "<!-- Letterlike Symbols -->",
  "<!ENTITY weierp   \"&#8472;\">",
  "<!ENTITY image    \"&#8465;\">",
  "<!ENTITY real     \"&#8476;\">",
  "<!ENTITY trade    \"&#8482;\">",
  "<!ENTITY alefsym  \"&#8501;\">",
  "",
  "<!-- Arrows -->",
  "<!ENTITY larr     \"&#8592;\">",
  "<!ENTITY uarr     \"&#8593;\">",
  "<!ENTITY rarr     \"&#8594;\">",
  "<!ENTITY darr     \"&#8595;\">",
  "<!ENTITY harr     \"&#8596;\">",
  "<!ENTITY crarr    \"&#8629;\">",
  "<!ENTITY lArr     \"&#8656;\">",
  "<!ENTITY uArr     \"&#8657;\">",
  "<!ENTITY rArr     \"&#8658;\">",
  "<!ENTITY dArr     \"&#8659;\">",
  "<!ENTITY hArr     \"&#8660;\">",
  "",
  "<!-- Mathematical Operators -->",
  "<!ENTITY forall   \"&#8704;\">",
  "<!ENTITY part     \"&#8706;\">",
  "<!ENTITY exist    \"&#8707;\">",
  "<!ENTITY empty    \"&#8709;\">",
  "<!ENTITY nabla    \"&#8711;\">",
  "<!ENTITY isin     \"&#8712;\">",
  "<!ENTITY notin    \"&#8713;\">",
  "<!ENTITY ni       \"&#8715;\">",
  "<!ENTITY prod     \"&#8719;\">",
  "<!ENTITY sum      \"&#8721;\">",
  "<!ENTITY minus    \"&#8722;\">",
  "<!ENTITY lowast   \"&#8727;\">",
  "<!ENTITY radic    \"&#8730;\">",
  "<!ENTITY prop     \"&#8733;\">",
  "<!ENTITY infin    \"&#8734;\">",
  "<!ENTITY ang      \"&#8736;\">",
  "<!ENTITY and      \"&#8743;\">",
  "<!ENTITY or       \"&#8744;\">",
  "<!ENTITY cap      \"&#8745;\">",
  "<!ENTITY cup      \"&#8746;\">",
  "<!ENTITY int      \"&#8747;\">",
  "<!ENTITY there4   \"&#8756;\">",
  "<!ENTITY sim      \"&#8764;\">",
  "<!ENTITY cong     \"&#8773;\">",
  "<!ENTITY asymp    \"&#8776;\">",
  "<!ENTITY ne       \"&#8800;\">",
  "<!ENTITY equiv    \"&#8801;\">",
  "<!ENTITY le       \"&#8804;\">",
  "<!ENTITY ge       \"&#8805;\">",
  "<!ENTITY sub      \"&#8834;\">",
  "<!ENTITY sup      \"&#8835;\">",
  "<!ENTITY nsub     \"&#8836;\">",
  "<!ENTITY sube     \"&#8838;\">",
  "<!ENTITY supe     \"&#8839;\">",
  "<!ENTITY oplus    \"&#8853;\">",
  "<!ENTITY otimes   \"&#8855;\">",
  "<!ENTITY perp     \"&#8869;\">",
  "<!ENTITY sdot     \"&#8901;\">",
  "",
  "<!-- Miscellaneous Technical -->",
  "<!ENTITY lceil    \"&#8968;\">",
  "<!ENTITY rceil    \"&#8969;\">",
  "<!ENTITY lfloor   \"&#8970;\">",
  "<!ENTITY rfloor   \"&#8971;\">",
  "<!ENTITY lang     \"&#9001;\">",
  "<!ENTITY rang     \"&#9002;\">",
  "",
  "<!-- Geometric Shapes -->",
  "<!ENTITY loz      \"&#9674;\">",
  "",
  "<!-- Miscellaneous Symbols -->",
  "<!ENTITY spades   \"&#9824;\">",
  "<!ENTITY clubs    \"&#9827;\">",
  "<!ENTITY hearts   \"&#9829;\">",
  "<!ENTITY diams    \"&#9830;\">"]

-- The entity set of markup characters, spaces and punctuation.
def specialEntities : String := joinLines [
  "<!-- Special characters for XHTML -->",
  "",
  "<!-- Character entity set. Typical invocation:",
  "     <!ENTITY % HTMLspecial PUBLIC",
  "        \"-//W3C//ENTITIES Special for XHTML//EN\"",
  "        \"http://www.w3.org/TR/xhtml1/DTD/xhtml-special.ent\">",
  "     %HTMLspecial;",
  "-->",
  "",
  "<!-- C0 Controls and Basic Latin -->",
  "<!ENTITY quot    \"&#34;\">",
  "<!ENTITY amp     \"&#38;#38;\">",
  "<!ENTITY lt      \"&#38;#60;\">",
  "<!ENTITY gt      \"&#62;\">",
  "<!ENTITY apos    \"&#39;\">",
  "",
  "<!-- Latin Extended-A -->",
  "<!ENTITY OElig    \"&#338;\">",
  "<!ENTITY oelig    \"&#339;\">",
  "<!ENTITY Scaron   \"&#352;\">",
  "<!ENTITY scaron   \"&#353;\">",
  "<!ENTITY Yuml     \"&#376;\">",
  "",
  "<!-- Spacing Modifier Letters -->",
  "<!ENTITY circ     \"&#710;\">",
  "<!ENTITY tilde    \"&#732;\">",
  "",
  "<!-- General Punctuation -->",
  "<!ENTITY ensp     \"&#8194;\">",
  "<!ENTITY emsp     \"&#8195;\">",
  "<!ENTITY thinsp   \"&#8201;\">",
  "<!ENTITY zwnj     \"&#8204;\">",
  "<!ENTITY zwj      \"&#8205;\">",
  "<!ENTITY lrm      \"&#8206;\">",
  "<!ENTITY rlm      \"&#8207;\">",
  "<!ENTITY ndash    \"&#8211;\">",
  "<!ENTITY mdash    \"&#8212;\">",
  "<!ENTITY lsquo    \"&#8216;\">",
  "<!ENTITY rsquo    \"&#8217;\">",
  "<!ENTITY sbquo    \"&#8218;\">",
  "<!ENTITY ldquo    \"&#8220;\">",
  "<!ENTITY rdquo    \"&#8221;\">",
  "<!ENTITY bdquo    \"&#8222;\">",
  "<!ENTITY dagger   \"&#8224;\">",
  "<!ENTITY Dagger   \"&#8225;\">",
  "<!ENTITY permil   \"&#8240;\">",
  "<!ENTITY lsaquo   \"&#8249;\">",
  "<!ENTITY rsaquo   \"&#8250;\">",
  "<!ENTITY euro     \"&#8364;\">"]

-- A document type of XHTML 1.0, which declares nothing but the three entity sets.
def documentType (variant fileWord : String) : String := joinLines [
  "<!--",
  "   Extensible HTML version 1.0 " ++ variant ++ " DTD",
  "",
  "   This is the same as HTML 4 " ++ variant ++ " except for",
  "   changes due to the differences between XML and SGML.",
  "",
  "   Namespace = http://www.w3.org/1999/xhtml",
  "",
  "   For further information, see: http://www.w3.org/TR/xhtml1",
  "",
  "   Copyright (c) 1998-2002 W3C (MIT, INRIA, Keio),",
  "   All Rights Reserved.",
  "",
  "   This DTD module is identified by the PUBLIC and SYSTEM identifiers:",
  "",
  "   PUBLIC \"-//W3C//DTD XHTML 1.0 " ++ variant ++ "//EN\"",
  "   SYSTEM \"http://www.w3.org/TR/xhtml1/DTD/xhtml1-" ++ fileWord ++ ".dtd\"",
  "",
  "   Only the character mnemonic entities are carried here. Element and",
  "   attribute declarations are never interpreted by a non-validating",
  "   template reader and are left out.",
  "-->",
  "",
  "<!--================ Character mnemonic entities =========================-->",
  "",
  "<!ENTITY % HTMLlat1 PUBLIC",
  "   \"-//W3C//ENTITIES Latin 1 for XHTML//EN\"",
  "   \"xhtml-lat1.ent\">",
  "%HTMLlat1;",
  "",
  "<!ENTITY % HTMLsymbol PUBLIC",
  "   \"-//W3C//ENTITIES Symbols for XHTML//EN\"",
  "   \"xhtml-symbol.ent\">",
  "%HTMLsymbol;",
  "",
  "<!ENTITY % HTMLspecial PUBLIC",
  "   \"-//W3C//ENTITIES Special for XHTML//EN\"",
  "   \"xhtml-special.ent\">",
  "%HTMLspecial;"]

def strictDtd : String :=
  documentType "Strict" "strict"

def transitionalDtd : String :=
  documentType "Transitional" "transitional"

def framesetDtd : String :=
  documentType "Frameset" "frameset"

end TemplateMarkup.Bundled
