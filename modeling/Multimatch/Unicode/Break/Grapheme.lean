import Multimatch.Unicode.Table

/-!
Where a grapheme cluster may end: the property the segmentation rules of Unicode 16 are stated in.
-/

namespace Multimatch.Unicode

/-- The values by their grapheme cluster break property, precomposed Hangul syllables apart. -/
def graphemeBreakRows : List Row := Row.read "
0-9=cn a=lf b-c=cn d=cr e-1f=cn 7f-9f=cn ad=cn 300-36f=ex 483-489=ex 591-5bd=ex 5bf=ex 5c1-5c2=ex
5c4-5c5=ex 5c7=ex 600-605=pp 610-61a=ex 61c=cn 64b-65f=ex 670=ex 6d6-6dc=ex 6dd=pp 6df-6e4=ex
6e7-6e8=ex 6ea-6ed=ex 70f=pp 711=ex 730-74a=ex 7a6-7b0=ex 7eb-7f3=ex 7fd=ex 816-819=ex 81b-823=ex
825-827=ex 829-82d=ex 859-85b=ex 890-891=pp 897-89f=ex 8ca-8e1=ex 8e2=pp 8e3-902=ex 903=sm 93a=ex
93b=sm 93c=ex 93e-940=sm 941-948=ex 949-94c=sm 94d=ex 94e-94f=sm 951-957=ex 962-963=ex 981=ex
982-983=sm 9bc=ex 9be=ex 9bf-9c0=sm 9c1-9c4=ex 9c7-9c8=sm 9cb-9cc=sm 9cd=ex 9d7=ex 9e2-9e3=ex 9fe=ex
a01-a02=ex a03=sm a3c=ex a3e-a40=sm a41-a42=ex a47-a48=ex a4b-a4d=ex a51=ex a70-a71=ex a75=ex
a81-a82=ex a83=sm abc=ex abe-ac0=sm ac1-ac5=ex ac7-ac8=ex ac9=sm acb-acc=sm acd=ex ae2-ae3=ex
afa-aff=ex b01=ex b02-b03=sm b3c=ex b3e-b3f=ex b40=sm b41-b44=ex b47-b48=sm b4b-b4c=sm b4d=ex
b55-b57=ex b62-b63=ex b82=ex bbe=ex bbf=sm bc0=ex bc1-bc2=sm bc6-bc8=sm bca-bcc=sm bcd=ex bd7=ex
c00=ex c01-c03=sm c04=ex c3c=ex c3e-c40=ex c41-c44=sm c46-c48=ex c4a-c4d=ex c55-c56=ex c62-c63=ex
c81=ex c82-c83=sm cbc=ex cbe=sm cbf-cc0=ex cc1=sm cc2=ex cc3-cc4=sm cc6-cc8=ex cca-ccd=ex cd5-cd6=ex
ce2-ce3=ex cf3=sm d00-d01=ex d02-d03=sm d3b-d3c=ex d3e=ex d3f-d40=sm d41-d44=ex d46-d48=sm
d4a-d4c=sm d4d=ex d4e=pp d57=ex d62-d63=ex d81=ex d82-d83=sm dca=ex dcf=ex dd0-dd1=sm dd2-dd4=ex
dd6=ex dd8-dde=sm ddf=ex df2-df3=sm e31=ex e33=sm e34-e3a=ex e47-e4e=ex eb1=ex eb3=sm eb4-ebc=ex
ec8-ece=ex f18-f19=ex f35=ex f37=ex f39=ex f3e-f3f=sm f71-f7e=ex f7f=sm f80-f84=ex f86-f87=ex
f8d-f97=ex f99-fbc=ex fc6=ex 102d-1030=ex 1031=sm 1032-1037=ex 1039-103a=ex 103b-103c=sm
103d-103e=ex 1056-1057=sm 1058-1059=ex 105e-1060=ex 1071-1074=ex 1082=ex 1084=sm 1085-1086=ex
108d=ex 109d=ex 1100-115f=l 1160-11a7=v 11a8-11ff=t 135d-135f=ex 1712-1715=ex 1732-1734=ex
1752-1753=ex 1772-1773=ex 17b4-17b5=ex 17b6=sm 17b7-17bd=ex 17be-17c5=sm 17c6=ex 17c7-17c8=sm
17c9-17d3=ex 17dd=ex 180b-180d=ex 180e=cn 180f=ex 1885-1886=ex 18a9=ex 1920-1922=ex 1923-1926=sm
1927-1928=ex 1929-192b=sm 1930-1931=sm 1932=ex 1933-1938=sm 1939-193b=ex 1a17-1a18=ex 1a19-1a1a=sm
1a1b=ex 1a55=sm 1a56=ex 1a57=sm 1a58-1a5e=ex 1a60=ex 1a62=ex 1a65-1a6c=ex 1a6d-1a72=sm 1a73-1a7c=ex
1a7f=ex 1ab0-1ace=ex 1b00-1b03=ex 1b04=sm 1b34-1b3d=ex 1b3e-1b41=sm 1b42-1b44=ex 1b6b-1b73=ex
1b80-1b81=ex 1b82=sm 1ba1=sm 1ba2-1ba5=ex 1ba6-1ba7=sm 1ba8-1bad=ex 1be6=ex 1be7=sm 1be8-1be9=ex
1bea-1bec=sm 1bed=ex 1bee=sm 1bef-1bf3=ex 1c24-1c2b=sm 1c2c-1c33=ex 1c34-1c35=sm 1c36-1c37=ex
1cd0-1cd2=ex 1cd4-1ce0=ex 1ce1=sm 1ce2-1ce8=ex 1ced=ex 1cf4=ex 1cf7=sm 1cf8-1cf9=ex 1dc0-1dff=ex
200b=cn 200c=ex 200d=zwj 200e-200f=cn 2028-202e=cn 2060-206f=cn 20d0-20f0=ex 2cef-2cf1=ex 2d7f=ex
2de0-2dff=ex 302a-302f=ex 3099-309a=ex a66f-a672=ex a674-a67d=ex a69e-a69f=ex a6f0-a6f1=ex a802=ex
a806=ex a80b=ex a823-a824=sm a825-a826=ex a827=sm a82c=ex a880-a881=sm a8b4-a8c3=sm a8c4-a8c5=ex
a8e0-a8f1=ex a8ff=ex a926-a92d=ex a947-a951=ex a952=sm a953=ex a960-a97c=l a980-a982=ex a983=sm
a9b3=ex a9b4-a9b5=sm a9b6-a9b9=ex a9ba-a9bb=sm a9bc-a9bd=ex a9be-a9bf=sm a9c0=ex a9e5=ex
aa29-aa2e=ex aa2f-aa30=sm aa31-aa32=ex aa33-aa34=sm aa35-aa36=ex aa43=ex aa4c=ex aa4d=sm aa7c=ex
aab0=ex aab2-aab4=ex aab7-aab8=ex aabe-aabf=ex aac1=ex aaeb=sm aaec-aaed=ex aaee-aaef=sm aaf5=sm
aaf6=ex abe3-abe4=sm abe5=ex abe6-abe7=sm abe8=ex abe9-abea=sm abec=sm abed=ex d7b0-d7c6=v
d7cb-d7fb=t fb1e=ex fe00-fe0f=ex fe20-fe2f=ex feff=cn ff9e-ff9f=ex fff0-fffb=cn 101fd=ex 102e0=ex
10376-1037a=ex 10a01-10a03=ex 10a05-10a06=ex 10a0c-10a0f=ex 10a38-10a3a=ex 10a3f=ex 10ae5-10ae6=ex
10d24-10d27=ex 10d69-10d6d=ex 10eab-10eac=ex 10efc-10eff=ex 10f46-10f50=ex 10f82-10f85=ex 11000=sm
11001=ex 11002=sm 11038-11046=ex 11070=ex 11073-11074=ex 1107f-11081=ex 11082=sm 110b0-110b2=sm
110b3-110b6=ex 110b7-110b8=sm 110b9-110ba=ex 110bd=pp 110c2=ex 110cd=pp 11100-11102=ex
11127-1112b=ex 1112c=sm 1112d-11134=ex 11145-11146=sm 11173=ex 11180-11181=ex 11182=sm
111b3-111b5=sm 111b6-111be=ex 111bf=sm 111c0=ex 111c2-111c3=pp 111c9-111cc=ex 111ce=sm 111cf=ex
1122c-1122e=sm 1122f-11231=ex 11232-11233=sm 11234-11237=ex 1123e=ex 11241=ex 112df=ex
112e0-112e2=sm 112e3-112ea=ex 11300-11301=ex 11302-11303=sm 1133b-1133c=ex 1133e=ex 1133f=sm
11340=ex 11341-11344=sm 11347-11348=sm 1134b-1134c=sm 1134d=ex 11357=ex 11362-11363=sm
11366-1136c=ex 11370-11374=ex 113b8=ex 113b9-113ba=sm 113bb-113c0=ex 113c2=ex 113c5=ex
113c7-113c9=ex 113ca=sm 113cc-113cd=sm 113ce-113d0=ex 113d1=pp 113d2=ex 113e1-113e2=ex
11435-11437=sm 11438-1143f=ex 11440-11441=sm 11442-11444=ex 11445=sm 11446=ex 1145e=ex 114b0=ex
114b1-114b2=sm 114b3-114b8=ex 114b9=sm 114ba=ex 114bb-114bc=sm 114bd=ex 114be=sm 114bf-114c0=ex
114c1=sm 114c2-114c3=ex 115af=ex 115b0-115b1=sm 115b2-115b5=ex 115b8-115bb=sm 115bc-115bd=ex
115be=sm 115bf-115c0=ex 115dc-115dd=ex 11630-11632=sm 11633-1163a=ex 1163b-1163c=sm 1163d=ex
1163e=sm 1163f-11640=ex 116ab=ex 116ac=sm 116ad=ex 116ae-116af=sm 116b0-116b7=ex 1171d=ex 1171e=sm
1171f=ex 11722-11725=ex 11726=sm 11727-1172b=ex 1182c-1182e=sm 1182f-11837=ex 11838=sm
11839-1183a=ex 11930=ex 11931-11935=sm 11937-11938=sm 1193b-1193e=ex 1193f=pp 11940=sm 11941=pp
11942=sm 11943=ex 119d1-119d3=sm 119d4-119d7=ex 119da-119db=ex 119dc-119df=sm 119e0=ex 119e4=sm
11a01-11a0a=ex 11a33-11a38=ex 11a39=sm 11a3a=pp 11a3b-11a3e=ex 11a47=ex 11a51-11a56=ex
11a57-11a58=sm 11a59-11a5b=ex 11a84-11a89=pp 11a8a-11a96=ex 11a97=sm 11a98-11a99=ex 11c2f=sm
11c30-11c36=ex 11c38-11c3d=ex 11c3e=sm 11c3f=ex 11c92-11ca7=ex 11ca9=sm 11caa-11cb0=ex 11cb1=sm
11cb2-11cb3=ex 11cb4=sm 11cb5-11cb6=ex 11d31-11d36=ex 11d3a=ex 11d3c-11d3d=ex 11d3f-11d45=ex
11d46=pp 11d47=ex 11d8a-11d8e=sm 11d90-11d91=ex 11d93-11d94=sm 11d95=ex 11d96=sm 11d97=ex
11ef3-11ef4=ex 11ef5-11ef6=sm 11f00-11f01=ex 11f02=pp 11f03=sm 11f34-11f35=sm 11f36-11f3a=ex
11f3e-11f3f=sm 11f40-11f42=ex 11f5a=ex 13430-1343f=cn 13440=ex 13447-13455=ex 1611e-16129=ex
1612a-1612c=sm 1612d-1612f=ex 16af0-16af4=ex 16b30-16b36=ex 16d63=v 16d67-16d6a=v 16f4f=ex
16f51-16f87=sm 16f8f-16f92=ex 16fe4=ex 16ff0-16ff1=ex 1bc9d-1bc9e=ex 1bca0-1bca3=cn 1cf00-1cf2d=ex
1cf30-1cf46=ex 1d165-1d169=ex 1d16d-1d172=ex 1d173-1d17a=cn 1d17b-1d182=ex 1d185-1d18b=ex
1d1aa-1d1ad=ex 1d242-1d244=ex 1da00-1da36=ex 1da3b-1da6c=ex 1da75=ex 1da84=ex 1da9b-1da9f=ex
1daa1-1daaf=ex 1e000-1e006=ex 1e008-1e018=ex 1e01b-1e021=ex 1e023-1e024=ex 1e026-1e02a=ex 1e08f=ex
1e130-1e136=ex 1e2ae=ex 1e2ec-1e2ef=ex 1e4ec-1e4ef=ex 1e5ee-1e5ef=ex 1e8d0-1e8d6=ex 1e944-1e94a=ex
1f1e6-1f1ff=ri 1f3fb-1f3ff=ex e0000-e001f=cn e0020-e007f=ex e0080-e00ff=cn e0100-e01ef=ex
e01f0-e0fff=cn
"

/--
The precomposed Hangul syllables: one without and twenty-seven with a trailing consonant for each
of the 399 leading pairs.
-/
def hangulSyllables : List Row :=
  (List.range 399).flatMap fun i =>
    let s := 0xAC00 + 28 * i
    [⟨⟨s, s⟩, "lv"⟩, ⟨⟨s + 1, s + 27⟩, "lvt"⟩]

/-- The codes of the property, each followed by its other normalised names. -/
def graphemeBreakNames : List Names := Names.read "
cn control
cr
eb ebase
ebg ebasegaz
em emodifier
ex extend
gaz glueafterzwj
l
lf
lv
lvt
pp prepend
ri regionalindicator
sm spacingmark
t
v
xx other
zwj
"

/-- The values of the grapheme cluster break property with a code; a code without values is none. -/
def graphemeBreak? (code : String) : Option IntervalSet :=
  Row.select? (graphemeBreakRows ++ hangulSyllables) code

end Multimatch.Unicode
