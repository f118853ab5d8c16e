import Multimatch.Unicode.Table

/-!
Where a word may end: the property the segmentation rules of Unicode 16 are stated in.
-/

namespace Multimatch.Unicode

/-- The values by their word break property. -/
def wordBreakRows : List Row := Row.read "
a=lf b-c=nl d=cr 20=wsegspace 22=dq 27=sq 2c=mn 2e=mb 30-39=nu 3a=ml 3b=mn 41-5a=le 5f=ex 61-7a=le
85=nl aa=le ad=fo b5=le b7=ml ba=le c0-d6=le d8-f6=le f8-2d7=le 2de-2ff=le 300-36f=extend 370-374=le
376-377=le 37a-37d=le 37e=mn 37f=le 386=le 387=ml 388-38a=le 38c=le 38e-3a1=le 3a3-3f5=le 3f7-481=le
483-489=extend 48a-52f=le 531-556=le 559-55c=le 55e=le 55f=ml 560-588=le 589=mn 58a=le
591-5bd=extend 5bf=extend 5c1-5c2=extend 5c4-5c5=extend 5c7=extend 5d0-5ea=hl 5ef-5f2=hl 5f3=le
5f4=ml 600-605=nu 60c-60d=mn 610-61a=extend 61c=fo 620-64a=le 64b-65f=extend 660-669=nu 66b=nu
66c=mn 66e-66f=le 670=extend 671-6d3=le 6d5=le 6d6-6dc=extend 6dd=nu 6df-6e4=extend 6e5-6e6=le
6e7-6e8=extend 6ea-6ed=extend 6ee-6ef=le 6f0-6f9=nu 6fa-6fc=le 6ff=le 70f-710=le 711=extend
712-72f=le 730-74a=extend 74d-7a5=le 7a6-7b0=extend 7b1=le 7c0-7c9=nu 7ca-7ea=le 7eb-7f3=extend
7f4-7f5=le 7f8=mn 7fa=le 7fd=extend 800-815=le 816-819=extend 81a=le 81b-823=extend 824=le
825-827=extend 828=le 829-82d=extend 840-858=le 859-85b=extend 860-86a=le 870-887=le 889-88e=le
890-891=nu 897-89f=extend 8a0-8c9=le 8ca-8e1=extend 8e2=nu 8e3-903=extend 904-939=le 93a-93c=extend
93d=le 93e-94f=extend 950=le 951-957=extend 958-961=le 962-963=extend 966-96f=nu 971-980=le
981-983=extend 985-98c=le 98f-990=le 993-9a8=le 9aa-9b0=le 9b2=le 9b6-9b9=le 9bc=extend 9bd=le
9be-9c4=extend 9c7-9c8=extend 9cb-9cd=extend 9ce=le 9d7=extend 9dc-9dd=le 9df-9e1=le 9e2-9e3=extend
9e6-9ef=nu 9f0-9f1=le 9fc=le 9fe=extend a01-a03=extend a05-a0a=le a0f-a10=le a13-a28=le a2a-a30=le
a32-a33=le a35-a36=le a38-a39=le a3c=extend a3e-a42=extend a47-a48=extend a4b-a4d=extend a51=extend
a59-a5c=le a5e=le a66-a6f=nu a70-a71=extend a72-a74=le a75=extend a81-a83=extend a85-a8d=le
a8f-a91=le a93-aa8=le aaa-ab0=le ab2-ab3=le ab5-ab9=le abc=extend abd=le abe-ac5=extend
ac7-ac9=extend acb-acd=extend ad0=le ae0-ae1=le ae2-ae3=extend ae6-aef=nu af9=le afa-aff=extend
b01-b03=extend b05-b0c=le b0f-b10=le b13-b28=le b2a-b30=le b32-b33=le b35-b39=le b3c=extend b3d=le
b3e-b44=extend b47-b48=extend b4b-b4d=extend b55-b57=extend b5c-b5d=le b5f-b61=le b62-b63=extend
b66-b6f=nu b71=le b82=extend b83=le b85-b8a=le b8e-b90=le b92-b95=le b99-b9a=le b9c=le b9e-b9f=le
ba3-ba4=le ba8-baa=le bae-bb9=le bbe-bc2=extend bc6-bc8=extend bca-bcd=extend bd0=le bd7=extend
be6-bef=nu c00-c04=extend c05-c0c=le c0e-c10=le c12-c28=le c2a-c39=le c3c=extend c3d=le
c3e-c44=extend c46-c48=extend c4a-c4d=extend c55-c56=extend c58-c5a=le c5d=le c60-c61=le
c62-c63=extend c66-c6f=nu c80=le c81-c83=extend c85-c8c=le c8e-c90=le c92-ca8=le caa-cb3=le
cb5-cb9=le cbc=extend cbd=le cbe-cc4=extend cc6-cc8=extend cca-ccd=extend cd5-cd6=extend cdd-cde=le
ce0-ce1=le ce2-ce3=extend ce6-cef=nu cf1-cf2=le cf3=extend d00-d03=extend d04-d0c=le d0e-d10=le
d12-d3a=le d3b-d3c=extend d3d=le d3e-d44=extend d46-d48=extend d4a-d4d=extend d4e=le d54-d56=le
d57=extend d5f-d61=le d62-d63=extend d66-d6f=nu d7a-d7f=le d81-d83=extend d85-d96=le d9a-db1=le
db3-dbb=le dbd=le dc0-dc6=le dca=extend dcf-dd4=extend dd6=extend dd8-ddf=extend de6-def=nu
df2-df3=extend e31=extend e34-e3a=extend e47-e4e=extend e50-e59=nu eb1=extend eb4-ebc=extend
ec8-ece=extend ed0-ed9=nu f00=le f18-f19=extend f20-f29=nu f35=extend f37=extend f39=extend
f3e-f3f=extend f40-f47=le f49-f6c=le f71-f84=extend f86-f87=extend f88-f8c=le f8d-f97=extend
f99-fbc=extend fc6=extend 102b-103e=extend 1040-1049=nu 1056-1059=extend 105e-1060=extend
1062-1064=extend 1067-106d=extend 1071-1074=extend 1082-108d=extend 108f=extend 1090-1099=nu
109a-109d=extend 10a0-10c5=le 10c7=le 10cd=le 10d0-10fa=le 10fc-1248=le 124a-124d=le 1250-1256=le
1258=le 125a-125d=le 1260-1288=le 128a-128d=le 1290-12b0=le 12b2-12b5=le 12b8-12be=le 12c0=le
12c2-12c5=le 12c8-12d6=le 12d8-1310=le 1312-1315=le 1318-135a=le 135d-135f=extend 1380-138f=le
13a0-13f5=le 13f8-13fd=le 1401-166c=le 166f-167f=le 1680=wsegspace 1681-169a=le 16a0-16ea=le
16ee-16f8=le 1700-1711=le 1712-1715=extend 171f-1731=le 1732-1734=extend 1740-1751=le
1752-1753=extend 1760-176c=le 176e-1770=le 1772-1773=extend 17b4-17d3=extend 17dd=extend
17e0-17e9=nu 180b-180d=extend 180e=fo 180f=extend 1810-1819=nu 1820-1878=le 1880-1884=le
1885-1886=extend 1887-18a8=le 18a9=extend 18aa=le 18b0-18f5=le 1900-191e=le 1920-192b=extend
1930-193b=extend 1946-194f=nu 19d0-19da=nu 1a00-1a16=le 1a17-1a1b=extend 1a55-1a5e=extend
1a60-1a7c=extend 1a7f=extend 1a80-1a89=nu 1a90-1a99=nu 1ab0-1ace=extend 1b00-1b04=extend
1b05-1b33=le 1b34-1b44=extend 1b45-1b4c=le 1b50-1b59=nu 1b6b-1b73=extend 1b80-1b82=extend
1b83-1ba0=le 1ba1-1bad=extend 1bae-1baf=le 1bb0-1bb9=nu 1bba-1be5=le 1be6-1bf3=extend 1c00-1c23=le
1c24-1c37=extend 1c40-1c49=nu 1c4d-1c4f=le 1c50-1c59=nu 1c5a-1c7d=le 1c80-1c8a=le 1c90-1cba=le
1cbd-1cbf=le 1cd0-1cd2=extend 1cd4-1ce8=extend 1ce9-1cec=le 1ced=extend 1cee-1cf3=le 1cf4=extend
1cf5-1cf6=le 1cf7-1cf9=extend 1cfa=le 1d00-1dbf=le 1dc0-1dff=extend 1e00-1f15=le 1f18-1f1d=le
1f20-1f45=le 1f48-1f4d=le 1f50-1f57=le 1f59=le 1f5b=le 1f5d=le 1f5f-1f7d=le 1f80-1fb4=le
1fb6-1fbc=le 1fbe=le 1fc2-1fc4=le 1fc6-1fcc=le 1fd0-1fd3=le 1fd6-1fdb=le 1fe0-1fec=le 1ff2-1ff4=le
1ff6-1ffc=le 2000-2006=wsegspace 2008-200a=wsegspace 200c=extend 200d=zwj 200e-200f=fo 2018-2019=mb
2024=mb 2027=ml 2028-2029=nl 202a-202e=fo 202f=ex 203f-2040=ex 2044=mn 2054=ex 205f=wsegspace
2060-2064=fo 2066-206f=fo 2071=le 207f=le 2090-209c=le 20d0-20f0=extend 2102=le 2107=le 210a-2113=le
2115=le 2119-211d=le 2124=le 2126=le 2128=le 212a-212d=le 212f-2139=le 213c-213f=le 2145-2149=le
214e=le 2160-2188=le 24b6-24e9=le 2c00-2ce4=le 2ceb-2cee=le 2cef-2cf1=extend 2cf2-2cf3=le
2d00-2d25=le 2d27=le 2d2d=le 2d30-2d67=le 2d6f=le 2d7f=extend 2d80-2d96=le 2da0-2da6=le 2da8-2dae=le
2db0-2db6=le 2db8-2dbe=le 2dc0-2dc6=le 2dc8-2dce=le 2dd0-2dd6=le 2dd8-2dde=le 2de0-2dff=extend
2e2f=le 3000=wsegspace 3005=le 302a-302f=extend 3031-3035=ka 303b-303c=le 3099-309a=extend
309b-309c=ka 30a0-30fa=ka 30fc-30ff=ka 3105-312f=le 3131-318e=le 31a0-31bf=le 31f0-31ff=ka
32d0-32fe=ka 3300-3357=ka a000-a48c=le a4d0-a4fd=le a500-a60c=le a610-a61f=le a620-a629=nu
a62a-a62b=le a640-a66e=le a66f-a672=extend a674-a67d=extend a67f-a69d=le a69e-a69f=extend
a6a0-a6ef=le a6f0-a6f1=extend a708-a7cd=le a7d0-a7d1=le a7d3=le a7d5-a7dc=le a7f2-a801=le
a802=extend a803-a805=le a806=extend a807-a80a=le a80b=extend a80c-a822=le a823-a827=extend
a82c=extend a840-a873=le a880-a881=extend a882-a8b3=le a8b4-a8c5=extend a8d0-a8d9=nu
a8e0-a8f1=extend a8f2-a8f7=le a8fb=le a8fd-a8fe=le a8ff=extend a900-a909=nu a90a-a925=le
a926-a92d=extend a930-a946=le a947-a953=extend a960-a97c=le a980-a983=extend a984-a9b2=le
a9b3-a9c0=extend a9cf=le a9d0-a9d9=nu a9e5=extend a9f0-a9f9=nu aa00-aa28=le aa29-aa36=extend
aa40-aa42=le aa43=extend aa44-aa4b=le aa4c-aa4d=extend aa50-aa59=nu aa7b-aa7d=extend aab0=extend
aab2-aab4=extend aab7-aab8=extend aabe-aabf=extend aac1=extend aae0-aaea=le aaeb-aaef=extend
aaf2-aaf4=le aaf5-aaf6=extend ab01-ab06=le ab09-ab0e=le ab11-ab16=le ab20-ab26=le ab28-ab2e=le
ab30-ab69=le ab70-abe2=le abe3-abea=extend abec-abed=extend abf0-abf9=nu ac00-d7a3=le d7b0-d7c6=le
d7cb-d7fb=le fb00-fb06=le fb13-fb17=le fb1d=hl fb1e=extend fb1f-fb28=hl fb2a-fb36=hl fb38-fb3c=hl
fb3e=hl fb40-fb41=hl fb43-fb44=hl fb46-fb4f=hl fb50-fbb1=le fbd3-fd3d=le fd50-fd8f=le fd92-fdc7=le
fdf0-fdfb=le fe00-fe0f=extend fe13=ml fe20-fe2f=extend fe33-fe34=ex fe4d-fe4f=ex fe50=mn fe52=mb
fe54=mn fe55=ml fe70-fe74=le fe76-fefc=le feff=fo ff07=mb ff0c=mn ff0e=mb ff10-ff19=nu ff1a=ml
ff1b=mn ff21-ff3a=le ff3f=ex ff41-ff5a=le ff66-ff9d=ka ff9e-ff9f=extend ffa0-ffbe=le ffc2-ffc7=le
ffca-ffcf=le ffd2-ffd7=le ffda-ffdc=le fff9-fffb=fo 10000-1000b=le 1000d-10026=le 10028-1003a=le
1003c-1003d=le 1003f-1004d=le 10050-1005d=le 10080-100fa=le 10140-10174=le 101fd=extend
10280-1029c=le 102a0-102d0=le 102e0=extend 10300-1031f=le 1032d-1034a=le 10350-10375=le
10376-1037a=extend 10380-1039d=le 103a0-103c3=le 103c8-103cf=le 103d1-103d5=le 10400-1049d=le
104a0-104a9=nu 104b0-104d3=le 104d8-104fb=le 10500-10527=le 10530-10563=le 10570-1057a=le
1057c-1058a=le 1058c-10592=le 10594-10595=le 10597-105a1=le 105a3-105b1=le 105b3-105b9=le
105bb-105bc=le 105c0-105f3=le 10600-10736=le 10740-10755=le 10760-10767=le 10780-10785=le
10787-107b0=le 107b2-107ba=le 10800-10805=le 10808=le 1080a-10835=le 10837-10838=le 1083c=le
1083f-10855=le 10860-10876=le 10880-1089e=le 108e0-108f2=le 108f4-108f5=le 10900-10915=le
10920-10939=le 10980-109b7=le 109be-109bf=le 10a00=le 10a01-10a03=extend 10a05-10a06=extend
10a0c-10a0f=extend 10a10-10a13=le 10a15-10a17=le 10a19-10a35=le 10a38-10a3a=extend 10a3f=extend
10a60-10a7c=le 10a80-10a9c=le 10ac0-10ac7=le 10ac9-10ae4=le 10ae5-10ae6=extend 10b00-10b35=le
10b40-10b55=le 10b60-10b72=le 10b80-10b91=le 10c00-10c48=le 10c80-10cb2=le 10cc0-10cf2=le
10d00-10d23=le 10d24-10d27=extend 10d30-10d39=nu 10d40-10d49=nu 10d4a-10d65=le 10d69-10d6d=extend
10d6f-10d85=le 10e80-10ea9=le 10eab-10eac=extend 10eb0-10eb1=le 10ec2-10ec4=le 10efc-10eff=extend
10f00-10f1c=le 10f27=le 10f30-10f45=le 10f46-10f50=extend 10f70-10f81=le 10f82-10f85=extend
10fb0-10fc4=le 10fe0-10ff6=le 11000-11002=extend 11003-11037=le 11038-11046=extend 11066-1106f=nu
11070=extend 11071-11072=le 11073-11074=extend 11075=le 1107f-11082=extend 11083-110af=le
110b0-110ba=extend 110bd=nu 110c2=extend 110cd=nu 110d0-110e8=le 110f0-110f9=nu 11100-11102=extend
11103-11126=le 11127-11134=extend 11136-1113f=nu 11144=le 11145-11146=extend 11147=le 11150-11172=le
11173=extend 11176=le 11180-11182=extend 11183-111b2=le 111b3-111c0=extend 111c1-111c4=le
111c9-111cc=extend 111ce-111cf=extend 111d0-111d9=nu 111da=le 111dc=le 11200-11211=le 11213-1122b=le
1122c-11237=extend 1123e=extend 1123f-11240=le 11241=extend 11280-11286=le 11288=le 1128a-1128d=le
1128f-1129d=le 1129f-112a8=le 112b0-112de=le 112df-112ea=extend 112f0-112f9=nu 11300-11303=extend
11305-1130c=le 1130f-11310=le 11313-11328=le 1132a-11330=le 11332-11333=le 11335-11339=le
1133b-1133c=extend 1133d=le 1133e-11344=extend 11347-11348=extend 1134b-1134d=extend 11350=le
11357=extend 1135d-11361=le 11362-11363=extend 11366-1136c=extend 11370-11374=extend 11380-11389=le
1138b=le 1138e=le 11390-113b5=le 113b7=le 113b8-113c0=extend 113c2=extend 113c5=extend
113c7-113ca=extend 113cc-113d0=extend 113d1=le 113d2=extend 113d3=le 113e1-113e2=extend
11400-11434=le 11435-11446=extend 11447-1144a=le 11450-11459=nu 1145e=extend 1145f-11461=le
11480-114af=le 114b0-114c3=extend 114c4-114c5=le 114c7=le 114d0-114d9=nu 11580-115ae=le
115af-115b5=extend 115b8-115c0=extend 115d8-115db=le 115dc-115dd=extend 11600-1162f=le
11630-11640=extend 11644=le 11650-11659=nu 11680-116aa=le 116ab-116b7=extend 116b8=le 116c0-116c9=nu
116d0-116e3=nu 1171d-1172b=extend 11730-11739=nu 11800-1182b=le 1182c-1183a=extend 118a0-118df=le
118e0-118e9=nu 118ff-11906=le 11909=le 1190c-11913=le 11915-11916=le 11918-1192f=le
11930-11935=extend 11937-11938=extend 1193b-1193e=extend 1193f=le 11940=extend 11941=le
11942-11943=extend 11950-11959=nu 119a0-119a7=le 119aa-119d0=le 119d1-119d7=extend
119da-119e0=extend 119e1=le 119e3=le 119e4=extend 11a00=le 11a01-11a0a=extend 11a0b-11a32=le
11a33-11a39=extend 11a3a=le 11a3b-11a3e=extend 11a47=extend 11a50=le 11a51-11a5b=extend
11a5c-11a89=le 11a8a-11a99=extend 11a9d=le 11ab0-11af8=le 11bc0-11be0=le 11bf0-11bf9=nu
11c00-11c08=le 11c0a-11c2e=le 11c2f-11c36=extend 11c38-11c3f=extend 11c40=le 11c50-11c59=nu
11c72-11c8f=le 11c92-11ca7=extend 11ca9-11cb6=extend 11d00-11d06=le 11d08-11d09=le 11d0b-11d30=le
11d31-11d36=extend 11d3a=extend 11d3c-11d3d=extend 11d3f-11d45=extend 11d46=le 11d47=extend
11d50-11d59=nu 11d60-11d65=le 11d67-11d68=le 11d6a-11d89=le 11d8a-11d8e=extend 11d90-11d91=extend
11d93-11d97=extend 11d98=le 11da0-11da9=nu 11ee0-11ef2=le 11ef3-11ef6=extend 11f00-11f01=extend
11f02=le 11f03=extend 11f04-11f10=le 11f12-11f33=le 11f34-11f3a=extend 11f3e-11f42=extend
11f50-11f59=nu 11f5a=extend 11fb0=le 12000-12399=le 12400-1246e=le 12480-12543=le 12f90-12ff0=le
13000-1342f=le 13430-1343f=fo 13440=extend 13441-13446=le 13447-13455=extend 13460-143fa=le
14400-14646=le 16100-1611d=le 1611e-1612f=extend 16130-16139=nu 16800-16a38=le 16a40-16a5e=le
16a60-16a69=nu 16a70-16abe=le 16ac0-16ac9=nu 16ad0-16aed=le 16af0-16af4=extend 16b00-16b2f=le
16b30-16b36=extend 16b40-16b43=le 16b50-16b59=nu 16b63-16b77=le 16b7d-16b8f=le 16d40-16d6c=le
16d70-16d79=nu 16e40-16e7f=le 16f00-16f4a=le 16f4f=extend 16f50=le 16f51-16f87=extend
16f8f-16f92=extend 16f93-16f9f=le 16fe0-16fe1=le 16fe3=le 16fe4=extend 16ff0-16ff1=extend
1aff0-1aff3=ka 1aff5-1affb=ka 1affd-1affe=ka 1b000=ka 1b120-1b122=ka 1b155=ka 1b164-1b167=ka
1bc00-1bc6a=le 1bc70-1bc7c=le 1bc80-1bc88=le 1bc90-1bc99=le 1bc9d-1bc9e=extend 1bca0-1bca3=fo
1ccf0-1ccf9=nu 1cf00-1cf2d=extend 1cf30-1cf46=extend 1d165-1d169=extend 1d16d-1d172=extend
1d173-1d17a=fo 1d17b-1d182=extend 1d185-1d18b=extend 1d1aa-1d1ad=extend 1d242-1d244=extend
1d400-1d454=le 1d456-1d49c=le 1d49e-1d49f=le 1d4a2=le 1d4a5-1d4a6=le 1d4a9-1d4ac=le 1d4ae-1d4b9=le
1d4bb=le 1d4bd-1d4c3=le 1d4c5-1d505=le 1d507-1d50a=le 1d50d-1d514=le 1d516-1d51c=le 1d51e-1d539=le
1d53b-1d53e=le 1d540-1d544=le 1d546=le 1d54a-1d550=le 1d552-1d6a5=le 1d6a8-1d6c0=le 1d6c2-1d6da=le
1d6dc-1d6fa=le 1d6fc-1d714=le 1d716-1d734=le 1d736-1d74e=le 1d750-1d76e=le 1d770-1d788=le
1d78a-1d7a8=le 1d7aa-1d7c2=le 1d7c4-1d7cb=le 1d7ce-1d7ff=nu 1da00-1da36=extend 1da3b-1da6c=extend
1da75=extend 1da84=extend 1da9b-1da9f=extend 1daa1-1daaf=extend 1df00-1df1e=le 1df25-1df2a=le
1e000-1e006=extend 1e008-1e018=extend 1e01b-1e021=extend 1e023-1e024=extend 1e026-1e02a=extend
1e030-1e06d=le 1e08f=extend 1e100-1e12c=le 1e130-1e136=extend 1e137-1e13d=le 1e140-1e149=nu 1e14e=le
1e290-1e2ad=le 1e2ae=extend 1e2c0-1e2eb=le 1e2ec-1e2ef=extend 1e2f0-1e2f9=nu 1e4d0-1e4eb=le
1e4ec-1e4ef=extend 1e4f0-1e4f9=nu 1e5d0-1e5ed=le 1e5ee-1e5ef=extend 1e5f0=le 1e5f1-1e5fa=nu
1e7e0-1e7e6=le 1e7e8-1e7eb=le 1e7ed-1e7ee=le 1e7f0-1e7fe=le 1e800-1e8c4=le 1e8d0-1e8d6=extend
1e900-1e943=le 1e944-1e94a=extend 1e94b=le 1e950-1e959=nu 1ee00-1ee03=le 1ee05-1ee1f=le
1ee21-1ee22=le 1ee24=le 1ee27=le 1ee29-1ee32=le 1ee34-1ee37=le 1ee39=le 1ee3b=le 1ee42=le 1ee47=le
1ee49=le 1ee4b=le 1ee4d-1ee4f=le 1ee51-1ee52=le 1ee54=le 1ee57=le 1ee59=le 1ee5b=le 1ee5d=le
1ee5f=le 1ee61-1ee62=le 1ee64=le 1ee67-1ee6a=le 1ee6c-1ee72=le 1ee74-1ee77=le 1ee79-1ee7c=le
1ee7e=le 1ee80-1ee89=le 1ee8b-1ee9b=le 1eea1-1eea3=le 1eea5-1eea9=le 1eeab-1eebb=le 1f130-1f149=le
1f150-1f169=le 1f170-1f189=le 1f1e6-1f1ff=ri 1f3fb-1f3ff=extend 1fbf0-1fbf9=nu e0001=fo
e0020-e007f=extend e0100-e01ef=extend
"

/-- The codes of the property, each followed by its other normalised names. -/
def wordBreakNames : List Names := Names.read "
cr
dq doublequote
eb ebase
ebg ebasegaz
em emodifier
ex extendnumlet
extend
fo format
gaz glueafterzwj
hl hebrewletter
ka katakana
le aletter
lf
mb midnumlet
ml midletter
mn midnum
nl newline
nu numeric
ri regionalindicator
sq singlequote
wsegspace
xx other
zwj
"

/-- The values of the word break property with a code; a code without values is none. -/
def wordBreak? (code : String) : Option IntervalSet :=
  Row.select? wordBreakRows code

end Multimatch.Unicode
