/-
Module: LedgerAgent.Text.Direction
Purpose: Whether text runs from left to right or from right to left, by Unicode 17, and
  the labels that read the same way wherever they stand.
Main exports: Text.Direction, Text.direction, Text.isRightward, Text.readsOneWay
-/
import LedgerAgent.Text.CodeTable

namespace LedgerAgent.Text

/-- The part that a character plays where texts of both directions meet. -/
inductive Direction where
  | left
  | right
  | arabic
  | arabicNumber
  | number
  | numberSign
  | numberEnd
  | separator
  | mark
  | boundary
  | neutral
  | other
deriving Repr, Inhabited, DecidableEq

namespace Direction

/-- The direction behind its letter in the table. -/
def ofNote : List Char → Direction
  | ['r'] => .right
  | ['a'] => .arabic
  | ['n'] => .arabicNumber
  | ['e'] => .number
  | ['s'] => .numberSign
  | ['t'] => .numberEnd
  | ['c'] => .separator
  | ['m'] => .mark
  | ['b'] => .boundary
  | ['o'] => .neutral
  | _ => .other

end Direction

/-- The code points that do not run from left to right. -/
def directionText : String :=
  "
  0-8:b 9-d:x e-1b:b 1c-20:x 21-22:o 23-25:t 26-2a:o 2b:s 2c:c 2d:s 2e-2f:c 30-39:e 3a:c 3b-40:o
  5b-60:o 7b-7e:o 7f-84:b 85:x 86-9f:b a0:c a1:o a2-a5:t a6-a9:o ab-ac:o ad:b ae-af:o b0-b1:t
  b2-b3:e b4:o b6-b8:o b9:e bb-bf:o d7:o f7:o 2b9-2ba:o 2c2-2cf:o 2d2-2df:o 2e5-2ed:o 2ef-2ff:o
  300-36f:m 374-375:o 37e:o 384-385:o 387:o 3f6:o 483-489:m 58a:o 58d-58e:o 58f:t 590:r 591-5bd:m
  5be:r 5bf:m 5c0:r 5c1-5c2:m 5c3:r 5c4-5c5:m 5c6:r 5c7:m 5c8-5ff:r 600-605:n 606-607:o 608:a
  609-60a:t 60b:a 60c:c 60d:a 60e-60f:o 610-61a:m 61b-64a:a 64b-65f:m 660-669:n 66a:t 66b-66c:n
  66d-66f:a 670:m 671-6d5:a 6d6-6dc:m 6dd:n 6de:o 6df-6e4:m 6e5-6e6:a 6e7-6e8:m 6e9:o 6ea-6ed:m
  6ee-6ef:a 6f0-6f9:e 6fa-710:a 711:m 712-72f:a 730-74a:m 74b-7a5:a 7a6-7b0:m 7b1-7bf:a 7c0-7ea:r
  7eb-7f3:m 7f4-7f5:r 7f6-7f9:o 7fa-7fc:r 7fd:m 7fe-815:r 816-819:m 81a:r 81b-823:m 824:r
  825-827:m 828:r 829-82d:m 82e-858:r 859-85b:m 85c-85f:r 860-88f:a 890-891:n 892-896:a 897-89f:m
  8a0-8c9:a 8ca-8e1:m 8e2:n 8e3-902:m 93a:m 93c:m 941-948:m 94d:m 951-957:m 962-963:m 981:m 9bc:m
  9c1-9c4:m 9cd:m 9e2-9e3:m 9f2-9f3:t 9fb:t 9fe:m a01-a02:m a3c:m a41-a42:m a47-a48:m a4b-a4d:m
  a51:m a70-a71:m a75:m a81-a82:m abc:m ac1-ac5:m ac7-ac8:m acd:m ae2-ae3:m af1:t afa-aff:m b01:m
  b3c:m b3f:m b41-b44:m b4d:m b55-b56:m b62-b63:m b82:m bc0:m bcd:m bf3-bf8:o bf9:t bfa:o c00:m
  c04:m c3c:m c3e-c40:m c46-c48:m c4a-c4d:m c55-c56:m c62-c63:m c78-c7e:o c81:m cbc:m ccc-ccd:m
  ce2-ce3:m d00-d01:m d3b-d3c:m d41-d44:m d4d:m d62-d63:m d81:m dca:m dd2-dd4:m dd6:m e31:m
  e34-e3a:m e3f:t e47-e4e:m eb1:m eb4-ebc:m ec8-ece:m f18-f19:m f35:m f37:m f39:m f3a-f3d:o
  f71-f7e:m f80-f84:m f86-f87:m f8d-f97:m f99-fbc:m fc6:m 102d-1030:m 1032-1037:m 1039-103a:m
  103d-103e:m 1058-1059:m 105e-1060:m 1071-1074:m 1082:m 1085-1086:m 108d:m 109d:m 135d-135f:m
  1390-1399:o 1400:o 1680:x 169b-169c:o 1712-1714:m 1732-1733:m 1752-1753:m 1772-1773:m
  17b4-17b5:m 17b7-17bd:m 17c6:m 17c9-17d3:m 17db:t 17dd:m 17f0-17f9:o 1800-180a:o 180b-180d:m
  180e:b 180f:m 1885-1886:m 18a9:m 1920-1922:m 1927-1928:m 1932:m 1939-193b:m 1940:o 1944-1945:o
  19de-19ff:o 1a17-1a18:m 1a1b:m 1a56:m 1a58-1a5e:m 1a60:m 1a62:m 1a65-1a6c:m 1a73-1a7c:m 1a7f:m
  1ab0-1add:m 1ae0-1aeb:m 1b00-1b03:m 1b34:m 1b36-1b3a:m 1b3c:m 1b42:m 1b6b-1b73:m 1b80-1b81:m
  1ba2-1ba5:m 1ba8-1ba9:m 1bab-1bad:m 1be6:m 1be8-1be9:m 1bed:m 1bef-1bf1:m 1c2c-1c33:m
  1c36-1c37:m 1cd0-1cd2:m 1cd4-1ce0:m 1ce2-1ce8:m 1ced:m 1cf4:m 1cf8-1cf9:m 1dc0-1dff:m 1fbd:o
  1fbf-1fc1:o 1fcd-1fcf:o 1fdd-1fdf:o 1fed-1fef:o 1ffd-1ffe:o 2000-200a:x 200b-200d:b 200f:r
  2010-2027:o 2028-202e:x 202f:c 2030-2034:t 2035-2043:o 2044:c 2045-205e:o 205f:x 2060-2065:b
  2066-2069:x 206a-206f:b 2070:e 2074-2079:e 207a-207b:s 207c-207e:o 2080-2089:e 208a-208b:s
  208c-208e:o 20a0-20cf:t 20d0-20f0:m 2100-2101:o 2103-2106:o 2108-2109:o 2114:o 2116-2118:o
  211e-2123:o 2125:o 2127:o 2129:o 212e:t 213a-213b:o 2140-2144:o 214a-214d:o 2150-215f:o
  2189-218b:o 2190-2211:o 2212:s 2213:t 2214-2335:o 237b-2394:o 2396-2429:o 2440-244a:o
  2460-2487:o 2488-249b:e 24ea-26ab:o 26ad-27ff:o 2900-2b73:o 2b76-2bff:o 2ce5-2cea:o 2cef-2cf1:m
  2cf9-2cff:o 2d7f:m 2de0-2dff:m 2e00-2e5d:o 2e80-2e99:o 2e9b-2ef3:o 2f00-2fd5:o 2ff0-2fff:o
  3000:x 3001-3004:o 3008-3020:o 302a-302d:m 3030:o 3036-3037:o 303d-303f:o 3099-309a:m
  309b-309c:o 30a0:o 30fb:o 31c0-31e5:o 31ef:o 321d-321e:o 3250-325f:o 327c-327e:o 32b1-32bf:o
  32cc-32cf:o 3377-337a:o 33de-33df:o 33ff:o 4dc0-4dff:o a490-a4c6:o a60d-a60f:o a66f-a672:m
  a673:o a674-a67d:m a67e-a67f:o a69e-a69f:m a6f0-a6f1:m a700-a721:o a788:o a802:m a806:m a80b:m
  a825-a826:m a828-a82b:o a82c:m a838-a839:t a874-a877:o a8c4-a8c5:m a8e0-a8f1:m a8ff:m
  a926-a92d:m a947-a951:m a980-a982:m a9b3:m a9b6-a9b9:m a9bc-a9bd:m a9e5:m aa29-aa2e:m
  aa31-aa32:m aa35-aa36:m aa43:m aa4c:m aa7c:m aab0:m aab2-aab4:m aab7-aab8:m aabe-aabf:m aac1:m
  aaec-aaed:m aaf6:m ab6a-ab6b:o abe5:m abe8:m abed:m fb1d:r fb1e:m fb1f-fb28:r fb29:s fb2a-fb4f:r
  fb50-fbc2:a fbc3-fbd2:o fbd3-fd3d:a fd3e-fd4f:o fd50-fd8f:a fd90-fd91:o fd92-fdc7:a fdc8-fdcf:o
  fdd0-fdef:b fdf0-fdfc:a fdfd-fdff:o fe00-fe0f:m fe10-fe19:o fe20-fe2f:m fe30-fe4f:o fe50:c
  fe51:o fe52:c fe54:o fe55:c fe56-fe5e:o fe5f:t fe60-fe61:o fe62-fe63:s fe64-fe66:o fe68:o
  fe69-fe6a:t fe6b:o fe70-fefe:a feff:b ff01-ff02:o ff03-ff05:t ff06-ff0a:o ff0b:s ff0c:c ff0d:s
  ff0e-ff0f:c ff10-ff19:e ff1a:c ff1b-ff20:o ff3b-ff40:o ff5b-ff65:o ffe0-ffe1:t ffe2-ffe4:o
  ffe5-ffe6:t ffe8-ffee:o fff0-fff8:b fff9-fffd:o fffe-ffff:b 10101:o 10140-1018c:o 10190-1019c:o
  101a0:o 101fd:m 102e0:m 102e1-102fb:e 10376-1037a:m 10800-1091e:r 1091f:o 10920-10a00:r
  10a01-10a03:m 10a04:r 10a05-10a06:m 10a07-10a0b:r 10a0c-10a0f:m 10a10-10a37:r 10a38-10a3a:m
  10a3b-10a3e:r 10a3f:m 10a40-10ae4:r 10ae5-10ae6:m 10ae7-10b38:r 10b39-10b3f:o 10b40-10cff:r
  10d00-10d23:a 10d24-10d27:m 10d28-10d2f:a 10d30-10d39:n 10d3a-10d3f:a 10d40-10d49:n
  10d4a-10d68:r 10d69-10d6d:m 10d6e:o 10d6f-10e5f:r 10e60-10e7e:n 10e7f-10eaa:r 10eab-10eac:m
  10ead-10ebf:r 10ec0-10ecf:a 10ed0-10ed8:o 10ed9-10ef9:a 10efa-10eff:m 10f00-10f2f:r
  10f30-10f45:a 10f46-10f50:m 10f51-10f6f:a 10f70-10f81:r 10f82-10f85:m 10f86-10fff:r 11001:m
  11038-11046:m 11052-11065:o 11070:m 11073-11074:m 1107f-11081:m 110b3-110b6:m 110b9-110ba:m
  110c2:m 11100-11102:m 11127-1112b:m 1112d-11134:m 11173:m 11180-11181:m 111b6-111be:m
  111c9-111cc:m 111cf:m 1122f-11231:m 11234:m 11236-11237:m 1123e:m 11241:m 112df:m 112e3-112ea:m
  11300-11301:m 1133b-1133c:m 11340:m 11366-1136c:m 11370-11374:m 113bb-113c0:m 113ce:m 113d0:m
  113d2:m 113e1-113e2:m 11438-1143f:m 11442-11444:m 11446:m 1145e:m 114b3-114b8:m 114ba:m
  114bf-114c0:m 114c2-114c3:m 115b2-115b5:m 115bc-115bd:m 115bf-115c0:m 115dc-115dd:m
  11633-1163a:m 1163d:m 1163f-11640:m 11660-1166c:o 116ab:m 116ad:m 116b0-116b5:m 116b7:m 1171d:m
  1171f:m 11722-11725:m 11727-1172b:m 1182f-11837:m 11839-1183a:m 1193b-1193c:m 1193e:m 11943:m
  119d4-119d7:m 119da-119db:m 119e0:m 11a01-11a06:m 11a09-11a0a:m 11a33-11a38:m 11a3b-11a3e:m
  11a47:m 11a51-11a56:m 11a59-11a5b:m 11a8a-11a96:m 11a98-11a99:m 11b60:m 11b62-11b64:m 11b66:m
  11c30-11c36:m 11c38-11c3d:m 11c92-11ca7:m 11caa-11cb0:m 11cb2-11cb3:m 11cb5-11cb6:m
  11d31-11d36:m 11d3a:m 11d3c-11d3d:m 11d3f-11d45:m 11d47:m 11d90-11d91:m 11d95:m 11d97:m
  11ef3-11ef4:m 11f00-11f01:m 11f36-11f3a:m 11f40:m 11f42:m 11f5a:m 11fd5-11fdc:o 11fdd-11fe0:t
  11fe1-11ff1:o 13440:m 13447-13455:m 1611e-16129:m 1612d-1612f:m 16af0-16af4:m 16b30-16b36:m
  16f4f:m 16f8f-16f92:m 16fe2:o 16fe4:m 1bc9d-1bc9e:m 1bca0-1bca3:b 1cc00-1ccd5:o 1ccf0-1ccf9:e
  1ccfa-1ccfc:o 1cd00-1ceb3:o 1ceba-1ced0:o 1cee0-1cef0:o 1cf00-1cf2d:m 1cf30-1cf46:m
  1d167-1d169:m 1d173-1d17a:b 1d17b-1d182:m 1d185-1d18b:m 1d1aa-1d1ad:m 1d1e9-1d1ea:o
  1d200-1d241:o 1d242-1d244:m 1d245:o 1d300-1d356:o 1d6c1:o 1d6db:o 1d6fb:o 1d715:o 1d735:o
  1d74f:o 1d76f:o 1d789:o 1d7a9:o 1d7c3:o 1d7ce-1d7ff:e 1da00-1da36:m 1da3b-1da6c:m 1da75:m
  1da84:m 1da9b-1da9f:m 1daa1-1daaf:m 1e000-1e006:m 1e008-1e018:m 1e01b-1e021:m 1e023-1e024:m
  1e026-1e02a:m 1e08f:m 1e130-1e136:m 1e2ae:m 1e2ec-1e2ef:m 1e2ff:t 1e4ec-1e4ef:m 1e5ee-1e5ef:m
  1e6e3:m 1e6e6:m 1e6ee-1e6ef:m 1e6f5:m 1e800-1e8cf:r 1e8d0-1e8d6:m 1e8d7-1e943:r 1e944-1e94a:m
  1e94b-1ec6f:r 1ec70-1ecbf:a 1ecc0-1ecff:r 1ed00-1ed4f:a 1ed50-1edff:r 1ee00-1eeef:a
  1eef0-1eef1:o 1eef2-1eeff:a 1ef00-1efff:r 1f000-1f02b:o 1f030-1f093:o 1f0a0-1f0ae:o
  1f0b1-1f0bf:o 1f0c1-1f0cf:o 1f0d1-1f0f5:o 1f100-1f10a:e 1f10b-1f10f:o 1f12f:o 1f16a-1f16f:o
  1f1ad:o 1f260-1f265:o 1f300-1f6d8:o 1f6dc-1f6ec:o 1f6f0-1f6fc:o 1f700-1f7d9:o 1f7e0-1f7eb:o
  1f7f0:o 1f800-1f80b:o 1f810-1f847:o 1f850-1f859:o 1f860-1f887:o 1f890-1f8ad:o 1f8b0-1f8bb:o
  1f8c0-1f8c1:o 1f8d0-1f8d8:o 1f900-1fa57:o 1fa60-1fa6d:o 1fa70-1fa7c:o 1fa80-1fa8a:o
  1fa8e-1fac6:o 1fac8:o 1facd-1fadc:o 1fadf-1faea:o 1faef-1faf8:o 1fb00-1fb92:o 1fb94-1fbef:o
  1fbf0-1fbf9:e 1fbfa:o 1fffe-1ffff:b 2fffe-2ffff:b 3fffe-3ffff:b 4fffe-4ffff:b 5fffe-5ffff:b
  6fffe-6ffff:b 7fffe-7ffff:b 8fffe-8ffff:b 9fffe-9ffff:b afffe-affff:b bfffe-bffff:b
  cfffe-cffff:b dfffe-e00ff:b e0100-e01ef:m e01f0-e0fff:b efffe-effff:b ffffe-fffff:b
  10fffe-10ffff:b"

def directionTable : CodeTable Direction := CodeTable.read Direction.ofNote directionText

/-- The direction of a character. -/
def direction (c : Char) : Direction :=
  (directionTable.get? c).getD .left

/-- Whether a character belongs to writing from right to left. -/
def isRightward (c : Char) : Bool :=
  [Direction.right, .arabic, .arabicNumber].contains (direction c)

/-- What may stand within a label of either direction. -/
def betweenDirections : List Direction :=
  [.number, .numberSign, .separator, .numberEnd, .neutral, .boundary, .mark]

/-- Whether a label reads the same way beside labels of the other direction.  Its first
character fixes its direction; from there on stands nothing of the other one, and at the
end, marks aside, a letter or a digit.  A label from right to left does not mix digits of
two kinds. -/
def readsOneWay (label : List Char) : Bool :=
  let ds := label.map direction
  let last := (ds.reverse.dropWhile (· == .mark)).head?
  match ds.head? with
  | none => true
  | some .left =>
    ds.all (fun d => d == .left || betweenDirections.contains d) &&
      last.any fun d => d == .left || d == .number
  | some first =>
    (first == .right || first == .arabic) &&
      ds.all (fun d => d == .right || d == .arabic || d == .arabicNumber ||
        betweenDirections.contains d) &&
      last.any (fun d => d == .right || d == .arabic || d == .number || d == .arabicNumber) &&
      !(ds.contains .number && ds.contains .arabicNumber)

end LedgerAgent.Text
