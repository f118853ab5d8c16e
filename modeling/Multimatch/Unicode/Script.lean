import Multimatch.Unicode.Table

/-!
The script of each scalar value (Unicode 16), with the names scripts go by.
-/

namespace Multimatch.Unicode

/-- The scripts in code order, by four-letter code; a value without a row has an unknown script. -/
def scriptRows : List Row := Row.read "
0-40=zyyy 41-5a=latn 5b-60=zyyy 61-7a=latn 7b-a9=zyyy aa=latn ab-b9=zyyy ba=latn bb-bf=zyyy
c0-d6=latn d7=zyyy d8-f6=latn f7=zyyy f8-2b8=latn 2b9-2df=zyyy 2e0-2e4=latn 2e5-2e9=zyyy
2ea-2eb=bopo 2ec-2ff=zyyy 300-36f=zinh 370-373=grek 374=zyyy 375-377=grek 37a-37d=grek 37e=zyyy
37f=grek 384=grek 385=zyyy 386=grek 387=zyyy 388-38a=grek 38c=grek 38e-3a1=grek 3a3-3e1=grek
3e2-3ef=copt 3f0-3ff=grek 400-484=cyrl 485-486=zinh 487-52f=cyrl 531-556=armn 559-58a=armn
58d-58f=armn 591-5c7=hebr 5d0-5ea=hebr 5ef-5f4=hebr 600-604=arab 605=zyyy 606-60b=arab 60c=zyyy
60d-61a=arab 61b=zyyy 61c-61e=arab 61f=zyyy 620-63f=arab 640=zyyy 641-64a=arab 64b-655=zinh
656-66f=arab 670=zinh 671-6dc=arab 6dd=zyyy 6de-6ff=arab 700-70d=syrc 70f-74a=syrc 74d-74f=syrc
750-77f=arab 780-7b1=thaa 7c0-7fa=nkoo 7fd-7ff=nkoo 800-82d=samr 830-83e=samr 840-85b=mand 85e=mand
860-86a=syrc 870-88e=arab 890-891=arab 897-8e1=arab 8e2=zyyy 8e3-8ff=arab 900-950=deva 951-954=zinh
955-963=deva 964-965=zyyy 966-97f=deva 980-983=beng 985-98c=beng 98f-990=beng 993-9a8=beng
9aa-9b0=beng 9b2=beng 9b6-9b9=beng 9bc-9c4=beng 9c7-9c8=beng 9cb-9ce=beng 9d7=beng 9dc-9dd=beng
9df-9e3=beng 9e6-9fe=beng a01-a03=guru a05-a0a=guru a0f-a10=guru a13-a28=guru a2a-a30=guru
a32-a33=guru a35-a36=guru a38-a39=guru a3c=guru a3e-a42=guru a47-a48=guru a4b-a4d=guru a51=guru
a59-a5c=guru a5e=guru a66-a76=guru a81-a83=gujr a85-a8d=gujr a8f-a91=gujr a93-aa8=gujr aaa-ab0=gujr
ab2-ab3=gujr ab5-ab9=gujr abc-ac5=gujr ac7-ac9=gujr acb-acd=gujr ad0=gujr ae0-ae3=gujr ae6-af1=gujr
af9-aff=gujr b01-b03=orya b05-b0c=orya b0f-b10=orya b13-b28=orya b2a-b30=orya b32-b33=orya
b35-b39=orya b3c-b44=orya b47-b48=orya b4b-b4d=orya b55-b57=orya b5c-b5d=orya b5f-b63=orya
b66-b77=orya b82-b83=taml b85-b8a=taml b8e-b90=taml b92-b95=taml b99-b9a=taml b9c=taml b9e-b9f=taml
ba3-ba4=taml ba8-baa=taml bae-bb9=taml bbe-bc2=taml bc6-bc8=taml bca-bcd=taml bd0=taml bd7=taml
be6-bfa=taml c00-c0c=telu c0e-c10=telu c12-c28=telu c2a-c39=telu c3c-c44=telu c46-c48=telu
c4a-c4d=telu c55-c56=telu c58-c5a=telu c5d=telu c60-c63=telu c66-c6f=telu c77-c7f=telu c80-c8c=knda
c8e-c90=knda c92-ca8=knda caa-cb3=knda cb5-cb9=knda cbc-cc4=knda cc6-cc8=knda cca-ccd=knda
cd5-cd6=knda cdd-cde=knda ce0-ce3=knda ce6-cef=knda cf1-cf3=knda d00-d0c=mlym d0e-d10=mlym
d12-d44=mlym d46-d48=mlym d4a-d4f=mlym d54-d63=mlym d66-d7f=mlym d81-d83=sinh d85-d96=sinh
d9a-db1=sinh db3-dbb=sinh dbd=sinh dc0-dc6=sinh dca=sinh dcf-dd4=sinh dd6=sinh dd8-ddf=sinh
de6-def=sinh df2-df4=sinh e01-e3a=thai e3f=zyyy e40-e5b=thai e81-e82=laoo e84=laoo e86-e8a=laoo
e8c-ea3=laoo ea5=laoo ea7-ebd=laoo ec0-ec4=laoo ec6=laoo ec8-ece=laoo ed0-ed9=laoo edc-edf=laoo
f00-f47=tibt f49-f6c=tibt f71-f97=tibt f99-fbc=tibt fbe-fcc=tibt fce-fd4=tibt fd5-fd8=zyyy
fd9-fda=tibt 1000-109f=mymr 10a0-10c5=geor 10c7=geor 10cd=geor 10d0-10fa=geor 10fb=zyyy
10fc-10ff=geor 1100-11ff=hang 1200-1248=ethi 124a-124d=ethi 1250-1256=ethi 1258=ethi 125a-125d=ethi
1260-1288=ethi 128a-128d=ethi 1290-12b0=ethi 12b2-12b5=ethi 12b8-12be=ethi 12c0=ethi 12c2-12c5=ethi
12c8-12d6=ethi 12d8-1310=ethi 1312-1315=ethi 1318-135a=ethi 135d-137c=ethi 1380-1399=ethi
13a0-13f5=cher 13f8-13fd=cher 1400-167f=cans 1680-169c=ogam 16a0-16ea=runr 16eb-16ed=zyyy
16ee-16f8=runr 1700-1715=tglg 171f=tglg 1720-1734=hano 1735-1736=zyyy 1740-1753=buhd 1760-176c=tagb
176e-1770=tagb 1772-1773=tagb 1780-17dd=khmr 17e0-17e9=khmr 17f0-17f9=khmr 1800-1801=mong
1802-1803=zyyy 1804=mong 1805=zyyy 1806-1819=mong 1820-1878=mong 1880-18aa=mong 18b0-18f5=cans
1900-191e=limb 1920-192b=limb 1930-193b=limb 1940=limb 1944-194f=limb 1950-196d=tale 1970-1974=tale
1980-19ab=talu 19b0-19c9=talu 19d0-19da=talu 19de-19df=talu 19e0-19ff=khmr 1a00-1a1b=bugi
1a1e-1a1f=bugi 1a20-1a5e=lana 1a60-1a7c=lana 1a7f-1a89=lana 1a90-1a99=lana 1aa0-1aad=lana
1ab0-1ace=zinh 1b00-1b4c=bali 1b4e-1b7f=bali 1b80-1bbf=sund 1bc0-1bf3=batk 1bfc-1bff=batk
1c00-1c37=lepc 1c3b-1c49=lepc 1c4d-1c4f=lepc 1c50-1c7f=olck 1c80-1c8a=cyrl 1c90-1cba=geor
1cbd-1cbf=geor 1cc0-1cc7=sund 1cd0-1cd2=zinh 1cd3=zyyy 1cd4-1ce0=zinh 1ce1=zyyy 1ce2-1ce8=zinh
1ce9-1cec=zyyy 1ced=zinh 1cee-1cf3=zyyy 1cf4=zinh 1cf5-1cf7=zyyy 1cf8-1cf9=zinh 1cfa=zyyy
1d00-1d25=latn 1d26-1d2a=grek 1d2b=cyrl 1d2c-1d5c=latn 1d5d-1d61=grek 1d62-1d65=latn 1d66-1d6a=grek
1d6b-1d77=latn 1d78=cyrl 1d79-1dbe=latn 1dbf=grek 1dc0-1dff=zinh 1e00-1eff=latn 1f00-1f15=grek
1f18-1f1d=grek 1f20-1f45=grek 1f48-1f4d=grek 1f50-1f57=grek 1f59=grek 1f5b=grek 1f5d=grek
1f5f-1f7d=grek 1f80-1fb4=grek 1fb6-1fc4=grek 1fc6-1fd3=grek 1fd6-1fdb=grek 1fdd-1fef=grek
1ff2-1ff4=grek 1ff6-1ffe=grek 2000-200b=zyyy 200c-200d=zinh 200e-2064=zyyy 2066-2070=zyyy 2071=latn
2074-207e=zyyy 207f=latn 2080-208e=zyyy 2090-209c=latn 20a0-20c0=zyyy 20d0-20f0=zinh 2100-2125=zyyy
2126=grek 2127-2129=zyyy 212a-212b=latn 212c-2131=zyyy 2132=latn 2133-214d=zyyy 214e=latn
214f-215f=zyyy 2160-2188=latn 2189-218b=zyyy 2190-2429=zyyy 2440-244a=zyyy 2460-27ff=zyyy
2800-28ff=brai 2900-2b73=zyyy 2b76-2b95=zyyy 2b97-2bff=zyyy 2c00-2c5f=glag 2c60-2c7f=latn
2c80-2cf3=copt 2cf9-2cff=copt 2d00-2d25=geor 2d27=geor 2d2d=geor 2d30-2d67=tfng 2d6f-2d70=tfng
2d7f=tfng 2d80-2d96=ethi 2da0-2da6=ethi 2da8-2dae=ethi 2db0-2db6=ethi 2db8-2dbe=ethi 2dc0-2dc6=ethi
2dc8-2dce=ethi 2dd0-2dd6=ethi 2dd8-2dde=ethi 2de0-2dff=cyrl 2e00-2e5d=zyyy 2e80-2e99=hani
2e9b-2ef3=hani 2f00-2fd5=hani 2ff0-3004=zyyy 3005=hani 3006=zyyy 3007=hani 3008-3020=zyyy
3021-3029=hani 302a-302d=zinh 302e-302f=hang 3030-3037=zyyy 3038-303b=hani 303c-303f=zyyy
3041-3096=hira 3099-309a=zinh 309b-309c=zyyy 309d-309f=hira 30a0=zyyy 30a1-30fa=kana 30fb-30fc=zyyy
30fd-30ff=kana 3105-312f=bopo 3131-318e=hang 3190-319f=zyyy 31a0-31bf=bopo 31c0-31e5=zyyy 31ef=zyyy
31f0-31ff=kana 3200-321e=hang 3220-325f=zyyy 3260-327e=hang 327f-32cf=zyyy 32d0-32fe=kana 32ff=zyyy
3300-3357=kana 3358-33ff=zyyy 3400-4dbf=hani 4dc0-4dff=zyyy 4e00-9fff=hani a000-a48c=yiii
a490-a4c6=yiii a4d0-a4ff=lisu a500-a62b=vaii a640-a69f=cyrl a6a0-a6f7=bamu a700-a721=zyyy
a722-a787=latn a788-a78a=zyyy a78b-a7cd=latn a7d0-a7d1=latn a7d3=latn a7d5-a7dc=latn a7f2-a7ff=latn
a800-a82c=sylo a830-a839=zyyy a840-a877=phag a880-a8c5=saur a8ce-a8d9=saur a8e0-a8ff=deva
a900-a92d=kali a92e=zyyy a92f=kali a930-a953=rjng a95f=rjng a960-a97c=hang a980-a9cd=java a9cf=zyyy
a9d0-a9d9=java a9de-a9df=java a9e0-a9fe=mymr aa00-aa36=cham aa40-aa4d=cham aa50-aa59=cham
aa5c-aa5f=cham aa60-aa7f=mymr aa80-aac2=tavt aadb-aadf=tavt aae0-aaf6=mtei ab01-ab06=ethi
ab09-ab0e=ethi ab11-ab16=ethi ab20-ab26=ethi ab28-ab2e=ethi ab30-ab5a=latn ab5b=zyyy ab5c-ab64=latn
ab65=grek ab66-ab69=latn ab6a-ab6b=zyyy ab70-abbf=cher abc0-abed=mtei abf0-abf9=mtei ac00-d7a3=hang
d7b0-d7c6=hang d7cb-d7fb=hang f900-fa6d=hani fa70-fad9=hani fb00-fb06=latn fb13-fb17=armn
fb1d-fb36=hebr fb38-fb3c=hebr fb3e=hebr fb40-fb41=hebr fb43-fb44=hebr fb46-fb4f=hebr fb50-fbc2=arab
fbd3-fd3d=arab fd3e-fd3f=zyyy fd40-fd8f=arab fd92-fdc7=arab fdcf=arab fdf0-fdff=arab fe00-fe0f=zinh
fe10-fe19=zyyy fe20-fe2d=zinh fe2e-fe2f=cyrl fe30-fe52=zyyy fe54-fe66=zyyy fe68-fe6b=zyyy
fe70-fe74=arab fe76-fefc=arab feff=zyyy ff01-ff20=zyyy ff21-ff3a=latn ff3b-ff40=zyyy ff41-ff5a=latn
ff5b-ff65=zyyy ff66-ff6f=kana ff70=zyyy ff71-ff9d=kana ff9e-ff9f=zyyy ffa0-ffbe=hang ffc2-ffc7=hang
ffca-ffcf=hang ffd2-ffd7=hang ffda-ffdc=hang ffe0-ffe6=zyyy ffe8-ffee=zyyy fff9-fffd=zyyy
10000-1000b=linb 1000d-10026=linb 10028-1003a=linb 1003c-1003d=linb 1003f-1004d=linb
10050-1005d=linb 10080-100fa=linb 10100-10102=zyyy 10107-10133=zyyy 10137-1013f=zyyy
10140-1018e=grek 10190-1019c=zyyy 101a0=grek 101d0-101fc=zyyy 101fd=zinh 10280-1029c=lyci
102a0-102d0=cari 102e0=zinh 102e1-102fb=zyyy 10300-10323=ital 1032d-1032f=ital 10330-1034a=goth
10350-1037a=perm 10380-1039d=ugar 1039f=ugar 103a0-103c3=xpeo 103c8-103d5=xpeo 10400-1044f=dsrt
10450-1047f=shaw 10480-1049d=osma 104a0-104a9=osma 104b0-104d3=osge 104d8-104fb=osge
10500-10527=elba 10530-10563=aghb 1056f=aghb 10570-1057a=vith 1057c-1058a=vith 1058c-10592=vith
10594-10595=vith 10597-105a1=vith 105a3-105b1=vith 105b3-105b9=vith 105bb-105bc=vith
105c0-105f3=todr 10600-10736=lina 10740-10755=lina 10760-10767=lina 10780-10785=latn
10787-107b0=latn 107b2-107ba=latn 10800-10805=cprt 10808=cprt 1080a-10835=cprt 10837-10838=cprt
1083c=cprt 1083f=cprt 10840-10855=armi 10857-1085f=armi 10860-1087f=palm 10880-1089e=nbat
108a7-108af=nbat 108e0-108f2=hatr 108f4-108f5=hatr 108fb-108ff=hatr 10900-1091b=phnx 1091f=phnx
10920-10939=lydi 1093f=lydi 10980-1099f=mero 109a0-109b7=merc 109bc-109cf=merc 109d2-109ff=merc
10a00-10a03=khar 10a05-10a06=khar 10a0c-10a13=khar 10a15-10a17=khar 10a19-10a35=khar
10a38-10a3a=khar 10a3f-10a48=khar 10a50-10a58=khar 10a60-10a7f=sarb 10a80-10a9f=narb
10ac0-10ae6=mani 10aeb-10af6=mani 10b00-10b35=avst 10b39-10b3f=avst 10b40-10b55=prti
10b58-10b5f=prti 10b60-10b72=phli 10b78-10b7f=phli 10b80-10b91=phlp 10b99-10b9c=phlp
10ba9-10baf=phlp 10c00-10c48=orkh 10c80-10cb2=hung 10cc0-10cf2=hung 10cfa-10cff=hung
10d00-10d27=rohg 10d30-10d39=rohg 10d40-10d65=gara 10d69-10d85=gara 10d8e-10d8f=gara
10e60-10e7e=arab 10e80-10ea9=yezi 10eab-10ead=yezi 10eb0-10eb1=yezi 10ec2-10ec4=arab
10efc-10eff=arab 10f00-10f27=sogo 10f30-10f59=sogd 10f70-10f89=ougr 10fb0-10fcb=chrs
10fe0-10ff6=elym 11000-1104d=brah 11052-11075=brah 1107f=brah 11080-110c2=kthi 110cd=kthi
110d0-110e8=sora 110f0-110f9=sora 11100-11134=cakm 11136-11147=cakm 11150-11176=mahj
11180-111df=shrd 111e1-111f4=sinh 11200-11211=khoj 11213-11241=khoj 11280-11286=mult 11288=mult
1128a-1128d=mult 1128f-1129d=mult 1129f-112a9=mult 112b0-112ea=sind 112f0-112f9=sind
11300-11303=gran 11305-1130c=gran 1130f-11310=gran 11313-11328=gran 1132a-11330=gran
11332-11333=gran 11335-11339=gran 1133b=zinh 1133c-11344=gran 11347-11348=gran 1134b-1134d=gran
11350=gran 11357=gran 1135d-11363=gran 11366-1136c=gran 11370-11374=gran 11380-11389=tutg 1138b=tutg
1138e=tutg 11390-113b5=tutg 113b7-113c0=tutg 113c2=tutg 113c5=tutg 113c7-113ca=tutg 113cc-113d5=tutg
113d7-113d8=tutg 113e1-113e2=tutg 11400-1145b=newa 1145d-11461=newa 11480-114c7=tirh
114d0-114d9=tirh 11580-115b5=sidd 115b8-115dd=sidd 11600-11644=modi 11650-11659=modi
11660-1166c=mong 11680-116b9=takr 116c0-116c9=takr 116d0-116e3=mymr 11700-1171a=ahom
1171d-1172b=ahom 11730-11746=ahom 11800-1183b=dogr 118a0-118f2=wara 118ff=wara 11900-11906=diak
11909=diak 1190c-11913=diak 11915-11916=diak 11918-11935=diak 11937-11938=diak 1193b-11946=diak
11950-11959=diak 119a0-119a7=nand 119aa-119d7=nand 119da-119e4=nand 11a00-11a47=zanb
11a50-11aa2=soyo 11ab0-11abf=cans 11ac0-11af8=pauc 11b00-11b09=deva 11bc0-11be1=sunu
11bf0-11bf9=sunu 11c00-11c08=bhks 11c0a-11c36=bhks 11c38-11c45=bhks 11c50-11c6c=bhks
11c70-11c8f=marc 11c92-11ca7=marc 11ca9-11cb6=marc 11d00-11d06=gonm 11d08-11d09=gonm
11d0b-11d36=gonm 11d3a=gonm 11d3c-11d3d=gonm 11d3f-11d47=gonm 11d50-11d59=gonm 11d60-11d65=gong
11d67-11d68=gong 11d6a-11d8e=gong 11d90-11d91=gong 11d93-11d98=gong 11da0-11da9=gong
11ee0-11ef8=maka 11f00-11f10=kawi 11f12-11f3a=kawi 11f3e-11f5a=kawi 11fb0=lisu 11fc0-11ff1=taml
11fff=taml 12000-12399=xsux 12400-1246e=xsux 12470-12474=xsux 12480-12543=xsux 12f90-12ff2=cpmn
13000-13455=egyp 13460-143fa=egyp 14400-14646=hluw 16100-16139=gukh 16800-16a38=bamu
16a40-16a5e=mroo 16a60-16a69=mroo 16a6e-16a6f=mroo 16a70-16abe=tnsa 16ac0-16ac9=tnsa
16ad0-16aed=bass 16af0-16af5=bass 16b00-16b45=hmng 16b50-16b59=hmng 16b5b-16b61=hmng
16b63-16b77=hmng 16b7d-16b8f=hmng 16d40-16d79=krai 16e40-16e9a=medf 16f00-16f4a=plrd
16f4f-16f87=plrd 16f8f-16f9f=plrd 16fe0=tang 16fe1=nshu 16fe2-16fe3=hani 16fe4=kits 16ff0-16ff1=hani
17000-187f7=tang 18800-18aff=tang 18b00-18cd5=kits 18cff=kits 18d00-18d08=tang 1aff0-1aff3=kana
1aff5-1affb=kana 1affd-1affe=kana 1b000=kana 1b001-1b11f=hira 1b120-1b122=kana 1b132=hira
1b150-1b152=hira 1b155=kana 1b164-1b167=kana 1b170-1b2fb=nshu 1bc00-1bc6a=dupl 1bc70-1bc7c=dupl
1bc80-1bc88=dupl 1bc90-1bc99=dupl 1bc9c-1bc9f=dupl 1bca0-1bca3=zyyy 1cc00-1ccf9=zyyy
1cd00-1ceb3=zyyy 1cf00-1cf2d=zinh 1cf30-1cf46=zinh 1cf50-1cfc3=zyyy 1d000-1d0f5=zyyy
1d100-1d126=zyyy 1d129-1d166=zyyy 1d167-1d169=zinh 1d16a-1d17a=zyyy 1d17b-1d182=zinh
1d183-1d184=zyyy 1d185-1d18b=zinh 1d18c-1d1a9=zyyy 1d1aa-1d1ad=zinh 1d1ae-1d1ea=zyyy
1d200-1d245=grek 1d2c0-1d2d3=zyyy 1d2e0-1d2f3=zyyy 1d300-1d356=zyyy 1d360-1d378=zyyy
1d400-1d454=zyyy 1d456-1d49c=zyyy 1d49e-1d49f=zyyy 1d4a2=zyyy 1d4a5-1d4a6=zyyy 1d4a9-1d4ac=zyyy
1d4ae-1d4b9=zyyy 1d4bb=zyyy 1d4bd-1d4c3=zyyy 1d4c5-1d505=zyyy 1d507-1d50a=zyyy 1d50d-1d514=zyyy
1d516-1d51c=zyyy 1d51e-1d539=zyyy 1d53b-1d53e=zyyy 1d540-1d544=zyyy 1d546=zyyy 1d54a-1d550=zyyy
1d552-1d6a5=zyyy 1d6a8-1d7cb=zyyy 1d7ce-1d7ff=zyyy 1d800-1da8b=sgnw 1da9b-1da9f=sgnw
1daa1-1daaf=sgnw 1df00-1df1e=latn 1df25-1df2a=latn 1e000-1e006=glag 1e008-1e018=glag
1e01b-1e021=glag 1e023-1e024=glag 1e026-1e02a=glag 1e030-1e06d=cyrl 1e08f=cyrl 1e100-1e12c=hmnp
1e130-1e13d=hmnp 1e140-1e149=hmnp 1e14e-1e14f=hmnp 1e290-1e2ae=toto 1e2c0-1e2f9=wcho 1e2ff=wcho
1e4d0-1e4f9=nagm 1e5d0-1e5fa=onao 1e5ff=onao 1e7e0-1e7e6=ethi 1e7e8-1e7eb=ethi 1e7ed-1e7ee=ethi
1e7f0-1e7fe=ethi 1e800-1e8c4=mend 1e8c7-1e8d6=mend 1e900-1e94b=adlm 1e950-1e959=adlm
1e95e-1e95f=adlm 1ec71-1ecb4=zyyy 1ed01-1ed3d=zyyy 1ee00-1ee03=arab 1ee05-1ee1f=arab
1ee21-1ee22=arab 1ee24=arab 1ee27=arab 1ee29-1ee32=arab 1ee34-1ee37=arab 1ee39=arab 1ee3b=arab
1ee42=arab 1ee47=arab 1ee49=arab 1ee4b=arab 1ee4d-1ee4f=arab 1ee51-1ee52=arab 1ee54=arab 1ee57=arab
1ee59=arab 1ee5b=arab 1ee5d=arab 1ee5f=arab 1ee61-1ee62=arab 1ee64=arab 1ee67-1ee6a=arab
1ee6c-1ee72=arab 1ee74-1ee77=arab 1ee79-1ee7c=arab 1ee7e=arab 1ee80-1ee89=arab 1ee8b-1ee9b=arab
1eea1-1eea3=arab 1eea5-1eea9=arab 1eeab-1eebb=arab 1eef0-1eef1=arab 1f000-1f02b=zyyy
1f030-1f093=zyyy 1f0a0-1f0ae=zyyy 1f0b1-1f0bf=zyyy 1f0c1-1f0cf=zyyy 1f0d1-1f0f5=zyyy
1f100-1f1ad=zyyy 1f1e6-1f1ff=zyyy 1f200=hira 1f201-1f202=zyyy 1f210-1f23b=zyyy 1f240-1f248=zyyy
1f250-1f251=zyyy 1f260-1f265=zyyy 1f300-1f6d7=zyyy 1f6dc-1f6ec=zyyy 1f6f0-1f6fc=zyyy
1f700-1f776=zyyy 1f77b-1f7d9=zyyy 1f7e0-1f7eb=zyyy 1f7f0=zyyy 1f800-1f80b=zyyy 1f810-1f847=zyyy
1f850-1f859=zyyy 1f860-1f887=zyyy 1f890-1f8ad=zyyy 1f8b0-1f8bb=zyyy 1f8c0-1f8c1=zyyy
1f900-1fa53=zyyy 1fa60-1fa6d=zyyy 1fa70-1fa7c=zyyy 1fa80-1fa89=zyyy 1fa8f-1fac6=zyyy
1face-1fadc=zyyy 1fadf-1fae9=zyyy 1faf0-1faf8=zyyy 1fb00-1fb92=zyyy 1fb94-1fbf9=zyyy
20000-2a6df=hani 2a700-2b739=hani 2b740-2b81d=hani 2b820-2cea1=hani 2ceb0-2ebe0=hani
2ebf0-2ee5d=hani 2f800-2fa1d=hani 30000-3134a=hani 31350-323af=hani e0001=zyyy e0020-e007f=zyyy
e0100-e01ef=zinh
"

/-- The four-letter codes, each followed by its other normalised names. -/
def scriptNames : List Names := Names.read "
adlm adlam
aghb caucasianalbanian
ahom
arab arabic
armi imperialaramaic
armn armenian
avst avestan
bali balinese
bamu bamum
bass bassavah
batk batak
beng bengali
bhks bhaiksuki
bopo bopomofo
brah brahmi
brai braille
bugi buginese
buhd buhid
cakm chakma
cans canadianaboriginal
cari carian
cham
cher cherokee
chrs chorasmian
copt coptic qaac
cpmn cyprominoan
cprt cypriot
cyrl cyrillic
deva devanagari
diak divesakuru
dogr dogra
dsrt deseret
dupl duployan
egyp egyptianhieroglyphs
elba elbasan
elym elymaic
ethi ethiopic
gara garay
geor georgian
glag glagolitic
gong gunjalagondi
gonm masaramgondi
goth gothic
gran grantha
grek greek
gujr gujarati
gukh gurungkhema
guru gurmukhi
hang hangul
hani han
hano hanunoo
hatr hatran
hebr hebrew
hira hiragana
hluw anatolianhieroglyphs
hmng pahawhhmong
hmnp nyiakengpuachuehmong
hrkt katakanaorhiragana
hung oldhungarian
ital olditalic
java javanese
kali kayahli
kana katakana
kawi
khar kharoshthi
khmr khmer
khoj khojki
kits khitansmallscript
knda kannada
krai kiratrai
kthi kaithi
lana taitham
laoo lao
latn latin
lepc lepcha
limb limbu
lina lineara
linb linearb
lisu
lyci lycian
lydi lydian
mahj mahajani
maka makasar
mand mandaic
mani manichaean
marc marchen
medf medefaidrin
mend mendekikakui
merc meroiticcursive
mero meroitichieroglyphs
mlym malayalam
modi
mong mongolian
mroo mro
mtei meeteimayek
mult multani
mymr myanmar
nagm nagmundari
nand nandinagari
narb oldnortharabian
nbat nabataean
newa
nkoo nko
nshu nushu
ogam ogham
olck olchiki
onao olonal
orkh oldturkic
orya oriya
osge osage
osma osmanya
ougr olduyghur
palm palmyrene
pauc paucinhau
perm oldpermic
phag phagspa
phli inscriptionalpahlavi
phlp psalterpahlavi
phnx phoenician
plrd miao
prti inscriptionalparthian
rjng rejang
rohg hanifirohingya
runr runic
samr samaritan
sarb oldsoutharabian
saur saurashtra
sgnw signwriting
shaw shavian
shrd sharada
sidd siddham
sind khudawadi
sinh sinhala
sogd sogdian
sogo oldsogdian
sora sorasompeng
soyo soyombo
sund sundanese
sunu sunuwar
sylo sylotinagri
syrc syriac
tagb tagbanwa
takr takri
tale taile
talu newtailue
taml tamil
tang tangut
tavt taiviet
telu telugu
tfng tifinagh
tglg tagalog
thaa thaana
thai
tibt tibetan
tirh tirhuta
tnsa tangsa
todr todhri
toto
tutg tulutigalari
ugar ugaritic
vaii vai
vith vithkuqi
wara warangciti
wcho wancho
xpeo oldpersian
xsux cuneiform
yezi yezidi
yiii yi
zanb zanabazarsquare
zinh inherited qaai
zyyy common
zzzz unknown
"

/-- The values of a script, by its code; a script without values is none. -/
def script? (code : String) : Option IntervalSet :=
  Row.select? scriptRows code

end Multimatch.Unicode
